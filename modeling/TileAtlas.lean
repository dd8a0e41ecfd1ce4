import TileAtlas.Ascending
import TileAtlas.Check.Map
import TileAtlas.Check.Tileset
import TileAtlas.CommandLine.Arguments
import TileAtlas.CommandLine.Consult
import TileAtlas.CommandLine.Inspect
import TileAtlas.CommandLine.Run
import TileAtlas.CommandLine.Validate
import TileAtlas.Config
import TileAtlas.Disk
import TileAtlas.Disk.Tree
import TileAtlas.Document.Attributes
import TileAtlas.Document.Basic
import TileAtlas.Document.Load
import TileAtlas.Document.MapReader
import TileAtlas.Document.TilesetReader
import TileAtlas.Image
import TileAtlas.Image.Bmp
import TileAtlas.Image.Bytes
import TileAtlas.Image.Gif
import TileAtlas.Image.Inflate
import TileAtlas.Image.Jpeg
import TileAtlas.Image.Png
import TileAtlas.Json.Basic
import TileAtlas.Json.Decode
import TileAtlas.Json.Encode
import TileAtlas.Json.Number
import TileAtlas.Json.Printer
import TileAtlas.Json.Reader
import TileAtlas.Layer
import TileAtlas.Main
import TileAtlas.Markup.Chars
import TileAtlas.Markup.Content
import TileAtlas.Markup.Reader
import TileAtlas.Markup.Token
import TileAtlas.Markup.Tree
import TileAtlas.Number.Binary
import TileAtlas.Number.Decimal
import TileAtlas.Number.Shortest
import TileAtlas.Path
import TileAtlas.Proofs.Additions
import TileAtlas.Proofs.CellQueries
import TileAtlas.Proofs.ColorIndices
import TileAtlas.Proofs.ColorQueries
import TileAtlas.Proofs.ColorTexts
import TileAtlas.Proofs.Counting
import TileAtlas.Proofs.Fallible
import TileAtlas.Proofs.Findings
import TileAtlas.Proofs.Flattening
import TileAtlas.Proofs.FloatText
import TileAtlas.Proofs.GlobalIds
import TileAtlas.Proofs.Grid
import TileAtlas.Proofs.Inlining
import TileAtlas.Proofs.Inspection
import TileAtlas.Proofs.JsonForm
import TileAtlas.Proofs.JsonRecords
import TileAtlas.Proofs.JsonText
import TileAtlas.Proofs.LayerData
import TileAtlas.Proofs.LayerElements
import TileAtlas.Proofs.LayerText
import TileAtlas.Proofs.Loading
import TileAtlas.Proofs.MapCheck
import TileAtlas.Proofs.MapFindings
import TileAtlas.Proofs.MapLoading
import TileAtlas.Proofs.Numerals
import TileAtlas.Proofs.Reordering
import TileAtlas.Proofs.Report
import TileAtlas.Proofs.Resolution
import TileAtlas.Proofs.SeenElements
import TileAtlas.Proofs.SeenReaders
import TileAtlas.Proofs.Tables
import TileAtlas.Proofs.TileCells
import TileAtlas.Proofs.TilesetWriting
import TileAtlas.Proofs.ValueTexts
import TileAtlas.Proofs.Verdict
import TileAtlas.Proofs.WangFindings
import TileAtlas.Proofs.WangIdTexts
import TileAtlas.Property
import TileAtlas.Report
import TileAtlas.Table
import TileAtlas.Text.Blank
import TileAtlas.Text.Hidden
import TileAtlas.Text.Numeral
import TileAtlas.Text.Quoted
import TileAtlas.TileMap
import TileAtlas.Tileset
import TileAtlas.Toml.Basic
import TileAtlas.Toml.Lexical
import TileAtlas.Toml.Reader
import TileAtlas.Wang.Color
import TileAtlas.Wang.Id
import TileAtlas.Wang.Position
import TileAtlas.Wang.Set
import TileAtlas.Proofs.SolidCells
import TileAtlas.Proofs.ArgumentGrammar
import TileAtlas.Proofs.VerbosePlacement
import TileAtlas.Proofs.ImageFindings
import TileAtlas.Proofs.GridFit
import TileAtlas.Proofs.ReportAssembly
import TileAtlas.Proofs.EntryPaths
import TileAtlas.Proofs.FileCollection
import TileAtlas.Proofs.Severities
import TileAtlas.Proofs.MapSizes
