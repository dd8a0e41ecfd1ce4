/-
JSON values and what they stand for.

`Carries read? j x` says that the text of a JSON value can be read, and that the value is
decoded as `x`. Texts and integers carry what they were made from; lists, missing values
and tables carry what their parts carry. A record is made of fields, some of which may be
left out (`Field`): a field that is there is found under its name, and one that is left
out is taken to be what its reader takes for a missing one (`IsRecord`).

Floating-point numbers are the only ones that something has to be said about: they have
to be finite, and the reader of JSON numbers has to round their literals to them
(`Exact`). Their literals are never those of integers (`integer?_of_marked`).
-/

import TileAtlas.Json.Decode
import TileAtlas.Proofs.JsonText
import TileAtlas.Proofs.Tables

namespace TileAtlas.Json

/-- A JSON value stands for a value of the program: its text can be read, and it is
decoded as the value. -/
structure Carries {α : Type} (read? : Json → Option α) (j : Json) (x : α) : Prop where
  wellFormed : WellFormed j
  read : read? j = some x

/-! ### Texts and integers -/

theorem carries_text (s : String) : Carries text? (ofText s) s :=
  ⟨.string (isBody_escape s), unescape?_escape s⟩

theorem carries_bool (b : Bool) : Carries bool? (.bool b) b :=
  ⟨.bool b, rfl⟩

theorem natural?_toString (n : Nat) : natural? (toString n) = some n := by
  rw [natural?, Text.toList_toString_nat, Text.digits?_toDigits]

/-- An integer is read back from its decimal numeral, sign included. -/
theorem integer?_toString (n : Int) : integer? (toString n) = some n := by
  unfold integer?
  cases n with
  | ofNat n =>
      obtain ⟨c, cs, hcons, hdigit⟩ := Text.exists_toDigits_eq_cons n
      have htext : (toString (Int.ofNat n)).toList = c :: cs :=
        (Text.toList_toString_nat n).trans hcons
      rw [htext]
      split
      · rename_i heq
        cases heq
        cases hdigit
      · rw [← hcons, Text.digits?_toDigits]
        rfl
  | negSucc n =>
      rw [Text.toList_toString_negSucc]
      simp only [Text.digits?_toDigits]
      rfl

theorem carries_uint32 (n : UInt32) : Carries uint32? (uint32Json n) n := by
  refine ⟨.number (isNumeral_toString_nat _), ?_⟩
  have hlt : n.toNat < UInt32.size := n.toNat_lt
  simp only [uint32Json, ofNat, uint32?, natural?_toString, Option.bind_some, Text.below?,
    if_pos hlt, Option.map_some, UInt32.ofNat_toNat]

theorem carries_uint8 (n : UInt8) : Carries uint8? (uint8Json n) n := by
  refine ⟨.number (isNumeral_toString_nat _), ?_⟩
  have hlt : n.toNat < UInt8.size := n.toNat_lt
  simp only [uint8Json, ofNat, uint8?, natural?_toString, Option.bind_some, Text.below?,
    if_pos hlt, Option.map_some, UInt8.ofNat_toNat]

theorem carries_int32 (n : Int32) : Carries int32? (ofInt n.toInt) n := by
  refine ⟨.number (isNumeral_toString_int _), ?_⟩
  have hlo : Int32.minValue.toInt ≤ n.toInt := n.minValue_le_toInt
  have hhi : n.toInt ≤ Int32.maxValue.toInt := n.toInt_le
  simp only [ofInt, int32?, integer?_toString, Option.bind_some, Text.between?, hlo, hhi, and_self,
    if_true, Option.map_some, Int32.ofInt_toInt]

/-! ### Lists, missing values and tables -/

/-- A list comes back if every member does. -/
theorem mapM_map_eq_some {α β : Type} {read? : β → Option α} {write : α → β} {xs : List α}
    (h : ∀ x ∈ xs, read? (write x) = some x) : (xs.map write).mapM read? = some xs := by
  induction xs with
  | nil => rfl
  | cons x xs ih =>
      rw [List.map_cons, List.mapM_cons, h x List.mem_cons_self,
        ih fun y hy => h y (List.mem_cons_of_mem x hy)]
      rfl

/-- A list is carried if every member is. -/
theorem Carries.list {α : Type} {read? : Json → Option α} {write : α → Json} {xs : List α}
    (h : ∀ x ∈ xs, Carries read? (write x) x) :
    Carries (list? read?) (.array (xs.map write)) xs := by
  refine ⟨.array ?_, ?_⟩
  · intro i hi
    obtain ⟨x, hx, rfl⟩ := List.mem_map.mp hi
    exact (h x hx).wellFormed
  · exact mapM_map_eq_some fun x hx => (h x hx).read

/-- A value that may be missing is carried, if null stands for no value. -/
theorem Carries.nullable {α : Type} {read? : Json → Option α} {write : α → Json} {o : Option α}
    (hnull : read? .null = none) (h : ∀ x ∈ o, Carries read? (write x) x) :
    Carries (nullable? read?) (ofOption write o) o := by
  cases o with
  | none => exact ⟨.null, rfl⟩
  | some x =>
      have hx := h x rfl
      refine ⟨hx.wellFormed, ?_⟩
      have hne : write x ≠ .null := by
        intro heq
        have := hx.read
        rw [heq, hnull] at this
        cases this
      rw [ofOption, nullable?.eq_2 _ _ hne, hx.read]
      rfl

/-- A table is carried if every key and every value is. -/
theorem carries_table {κ α : Type} [Ord κ] [Std.TransOrd κ] [Std.LawfulEqOrd κ]
    {value? : Json → Option α} {write : α → Json} {t : Table κ α} (key? : String → Option κ)
    (key : κ → String) (hbody : ∀ k, IsBody (key k)) (hkey : ∀ k, key? (key k) = some k)
    (h : ∀ e ∈ t.entries, Carries value? (write e.2) e.2) :
    WellFormed (.object (t.entries.map fun e => (key e.1, write e.2))) ∧
      ((t.entries.map fun e => (key e.1, write e.2)).mapM (member? key? value?)).map Table.ofList =
        some t := by
  refine ⟨.object ?_ ?_, ?_⟩
  · intro m hm
    obtain ⟨e, he, rfl⟩ := List.mem_map.mp hm
    exact hbody e.1
  · intro m hm
    obtain ⟨e, he, rfl⟩ := List.mem_map.mp hm
    exact (h e he).wellFormed
  · have hread : ∀ e ∈ t.entries, member? key? value? (key e.1, write e.2) = some e := by
      intro e he
      simp [member?, hkey, (h e he).read]
    rw [mapM_map_eq_some hread, Option.map_some, Table.ofList_eq_of_perm (.refl _)]

/-! ### Records -/

/-- A text that escaping leaves alone is left alone when read back. -/
theorem unescape?_of_plain {s : String} (h : escape s = s) : unescape? s = some s := by
  rw [← h, unescape?_escape, h]

theorem isBody_of_plain {s : String} (h : escape s = s) : IsBody s :=
  h ▸ isBody_escape s

theorem escapeChar_of_isDigit {c : Char} (h : c.isDigit = true) : escapeChar c = [c] := by
  have hne {d : Char} (hd : d.isDigit = false) : c ≠ d := by
    rintro rfl
    rw [hd] at h
    cases h
  have hcontrol : ¬ c.toNat < 0x20 := by
    have hrange : 48 ≤ c.toNat ∧ c.toNat ≤ 57 := by
      simpa [Char.isDigit, UInt32.le_iff_toNat_le] using h
    omega
  simp [escapeChar, hne, hcontrol]

theorem isBody_toString_nat (n : Nat) : IsBody (toString n) := by
  refine isBody_of_plain ?_
  have hchars : (Nat.toDigits 10 n).flatMap escapeChar = Nat.toDigits 10 n := by
    rw [List.flatMap_congr fun c hc => escapeChar_of_isDigit (Text.isDigit_of_mem_toDigits hc)]
    simp
  rw [escape, Text.toList_toString_nat, hchars, ← Text.toList_toString_nat, String.ofList_toList]

structure Field where
  left : Bool
  name : String
  value : Json

def fieldMembers (fs : List Field) : List (String × Json) :=
  fs.flatMap fun f => memberUnless f.left f.name f.value

theorem fieldMembers_cons (f : Field) (fs : List Field) :
    fieldMembers (f :: fs) = memberUnless f.left f.name f.value ++ fieldMembers fs :=
  List.flatMap_cons

/-- Every member of a record is one of its fields. -/
theorem exists_of_mem_fieldMembers {fs : List Field} {m : String × Json} (h : m ∈ fieldMembers fs) :
    ∃ f ∈ fs, m = (f.name, f.value) := by
  obtain ⟨f, hf, hm⟩ := List.mem_flatMap.mp h
  unfold memberUnless at hm
  split at hm
  · cases hm
  · exact ⟨f, hf, List.mem_singleton.mp hm⟩

theorem keys_fieldMembers_sublist (fs : List Field) :
    ((fieldMembers fs).map (·.1)).Sublist (fs.map Field.name) := by
  induction fs with
  | nil => exact .slnil
  | cons f fs ih =>
      rw [fieldMembers_cons, List.map_append, List.map_cons, memberUnless]
      split
      · exact ih.cons _
      · exact ih.cons_cons _

/-- A field is found under its name, unless it is left out. -/
theorem lookup_fieldMembers {fs : List Field} (hnodup : (fs.map Field.name).Nodup) {f : Field}
    (hf : f ∈ fs) :
    (fieldMembers fs).lookup f.name = if f.left then none else some f.value := by
  induction fs with
  | nil => cases hf
  | cons g fs ih =>
      rw [List.map_cons, List.nodup_cons] at hnodup
      obtain ⟨hnew, hnodup⟩ := hnodup
      rw [fieldMembers_cons, List.lookup_append, memberUnless]
      rcases List.mem_cons.mp hf with rfl | hf
      · have hnone : (fieldMembers fs).lookup f.name = none := by
          rw [List.lookup_eq_none_iff]
          intro m hm
          obtain ⟨g, hg, rfl⟩ := exists_of_mem_fieldMembers hm
          rw [bne_iff_ne]
          exact fun heq => hnew (heq ▸ List.mem_map_of_mem hg)
        split
        · exact hnone
        · simp
      · have hne : f.name ≠ g.name := fun heq => hnew (heq ▸ List.mem_map_of_mem hf)
        rw [ih hnodup hf]
        split
        · rfl
        · simp [List.lookup_cons, beq_false_of_ne hne]

/-- The fields of a record, under names that are distinct and need no escapes. -/
structure IsRecord (names : List String) (fs : List Field) : Prop where
  names_eq : fs.map Field.name = names
  plain : ∀ n ∈ names, escape n = n
  nodup : names.Nodup

namespace IsRecord

/-- The reader of a record knows all its fields. -/
theorem record?_eq {names : List String} {fs : List Field} (h : IsRecord names fs) :
    record? names (.object (fieldMembers fs)) = some (fieldMembers fs) := by
  have hkeys := h.names_eq ▸ keys_fieldMembers_sublist fs
  have hmem : ∀ m ∈ fieldMembers fs, m.1 ∈ names := fun m hm =>
    hkeys.subset (List.mem_map_of_mem hm)
  have hunescape : ((fieldMembers fs).map id).mapM
      (fun m => (unescape? m.1).map fun k => (k, m.2)) = some (fieldMembers fs) := by
    refine mapM_map_eq_some fun m hm => ?_
    simp [unescape?_of_plain (h.plain m.1 (hmem m hm))]
  have hfilter : (fieldMembers fs).filter (fun m => names.contains m.1) = fieldMembers fs :=
    List.filter_eq_self.mpr fun m hm => by simpa using hmem m hm
  rw [List.map_id] at hunescape
  simp only [record?, hunescape, Option.bind_eq_bind, Option.bind_some, hfilter,
    if_pos (hkeys.nodup h.nodup)]

/-- A field that is always written is found by its name. -/
theorem field?_eq {names : List String} {fs : List Field} (h : IsRecord names fs) {α : Type}
    {read? : Json → Option α} {j : Json} {x : α} (name : String)
    (hj : Carries read? j x) (hf : ⟨false, name, j⟩ ∈ fs) :
    field? (fieldMembers fs) name read? = some x := by
  have hlookup := lookup_fieldMembers (h.names_eq ▸ h.nodup) hf
  rw [field?, hlookup]
  exact hj.read

/-- A field that may be left out is found, or its default stands in: it is left out for the
default only. -/
theorem fieldOr_eq {names : List String} {fs : List Field} (h : IsRecord names fs) {α : Type}
    {read? : Json → Option α} {j : Json} {missing x : α} (left : Bool)
    (name : String) (hj : Carries read? j x) (hleft : left = true → x = missing)
    (hf : ⟨left, name, j⟩ ∈ fs) : fieldOr (fieldMembers fs) name missing read? = some x := by
  have hlookup := lookup_fieldMembers (h.names_eq ▸ h.nodup) hf
  rw [fieldOr, hlookup]
  cases left with
  | false => exact hj.read
  | true => exact congrArg some (hleft rfl).symm

/-- A field that may be missing, but is always written. -/
theorem fieldOr_eq_of_written {names : List String} {fs : List Field} (h : IsRecord names fs)
    {α : Type} {read? : Json → Option α} {j : Json} {missing x : α} (name : String)
    (hj : Carries read? j x) (hf : ⟨false, name, j⟩ ∈ fs) :
    fieldOr (fieldMembers fs) name missing read? = some x :=
  h.fieldOr_eq false name hj (fun hleft => absurd hleft Bool.false_ne_true) hf

/-- A record of well-formed values is well formed: its names are plain and distinct. -/
theorem wellFormed {names : List String} {fs : List Field} (h : IsRecord names fs)
    (hvalues : ∀ f ∈ fs, WellFormed f.value) :
    WellFormed (.object (fieldMembers fs)) := by
  refine .object ?_ ?_
  · intro m hm
    obtain ⟨f, hf, rfl⟩ := exists_of_mem_fieldMembers hm
    exact isBody_of_plain (h.plain f.name (h.names_eq ▸ List.mem_map_of_mem hf))
  · intro m hm
    obtain ⟨f, hf, rfl⟩ := exists_of_mem_fieldMembers hm
    exact hvalues f hf

end IsRecord

/-! ### Floating-point numbers -/

/-- A number that JSON can hold: it is finite, and its literal is rounded to it. -/
structure Exact {f : Number.Format} (range : Number.PlainRange)
    (read? : String → Option (Number.Binary f)) (x : Number.Binary f) : Prop where
  finite : x.isFinite = true
  readsBack : ∀ literal ∈ x.marked? range, read? literal = some x

instance {f : Number.Format} (range : Number.PlainRange)
    (read? : String → Option (Number.Binary f)) (x : Number.Binary f) :
    Decidable (Exact range read? x) :=
  decidable_of_iff (x.isFinite = true ∧ ∀ literal ∈ x.marked? range, read? literal = some x)
    ⟨fun h => ⟨h.1, h.2⟩, fun h => ⟨h.finite, h.readsBack⟩⟩

/-- Every finite number has a literal. -/
theorem exists_marked_of_isFinite {f : Number.Format} (range : Number.PlainRange)
    {x : Number.Binary f} (h : x.isFinite = true) : ∃ literal, x.marked? range = some literal := by
  cases x with
  | nan => cases h
  | infinite s => cases h
  | finite s m e hm =>
      unfold Number.Binary.marked?
      simp only
      split
      · exact ⟨_, rfl⟩
      · split
        · exact ⟨_, rfl⟩
        · exact ⟨_, rfl⟩

/-- An exact number is written as a numeral that is read as the number. -/
theorem Exact.exists_literal {f : Number.Format} {range : Number.PlainRange}
    {read? : String → Option (Number.Binary f)} {x : Number.Binary f} (h : Exact range read? x) :
    ∃ literal, x.marked? range = some literal ∧ ofBinary range x = .number literal ∧
      read? literal = some x := by
  obtain ⟨literal, hliteral⟩ := exists_marked_of_isFinite range h.finite
  refine ⟨literal, hliteral, ?_, h.readsBack literal hliteral⟩
  rw [ofBinary, hliteral]

/-- A text with anything but digits in it is no numeral. -/
theorem digits?_eq_none {cs : List Char} {c : Char} (hmem : c ∈ cs) (hc : c.isDigit = false) :
    Text.digits? cs = none := by
  have hall : cs.all Char.isDigit = false :=
    List.all_eq_false.mpr ⟨c, hmem, by simp [hc]⟩
  simp [Text.digits?, hall]

/-- A literal with a point or an exponent is no integer. -/
theorem integer?_of_marked {f : Number.Format} {range : Number.PlainRange} {x : Number.Binary f}
    {literal : String} (h : x.marked? range = some literal) : integer? literal = none := by
  obtain ⟨sign, whole, fraction, exponent, hsign, hwhole, -, hexponent, hmark, htext⟩ :=
    Number.exists_toList_marked h
  have hbody : Text.digits? (whole ++ (Number.pointed fraction ++ exponent)) = none := by
    rcases hmark with hfraction | hne
    · refine digits?_eq_none (c := '.') ?_ (by decide)
      simp [Number.pointed_of_ne_nil hfraction]
    · cases hexponent with
      | missing => exact absurd rfl hne
      | signed => exact digits?_eq_none (c := 'e') (by simp) (by decide)
  unfold integer?
  rw [htext]
  rcases hsign with rfl | rfl
  · obtain ⟨c, cs, rfl⟩ := List.exists_cons_of_ne_nil hwhole.2.1
    rw [List.nil_append]
    split
    · rename_i heq
      rw [List.cons_append, List.cons.injEq] at heq
      have hc := hwhole.1 c List.mem_cons_self
      rw [heq.1] at hc
      cases hc
    · rw [hbody]
      rfl
  · rw [List.singleton_append]
    simp only [hbody]
    rfl

end TileAtlas.Json
