import Mathlib.Tactic.SplitIfs
import SqlSchema.Json.Printer
import SqlSchema.Json.Reader
/-!
# Layouts of JSON

A value can be laid out in many ways, for blanks may stand around each of its tokens. Both writers lay a
value out, and reading gives back the value that a text is a layout of.
-/
namespace SqlSchema.Json

section Strings

/-- The characters that are escaped by a letter or a sign. -/
def shortEscapes : List (Char × Char) :=
  [('"', '"'), ('\\', '\\'), ('\x08', 'b'), ('\t', 't'), ('\n', 'n'), ('\x0c', 'f'), ('\r', 'r')]

theorem escapeChar_of_mem {c letter : Char} (h : (c, letter) ∈ shortEscapes) :
    escapeChar c = ['\\', letter] ∧ ∀ rest, readEscape (letter :: rest) = some (c, rest) := by
  have hall : ∀ pair ∈ shortEscapes, escapeChar pair.1 = ['\\', pair.2] ∧
      ∀ rest, readEscape (pair.2 :: rest) = some (pair.1, rest) := by
    simp [shortEscapes, escapeChar, readEscape]
  exact hall _ h

theorem escapeChar_of_not_mem {c : Char} (h : ∀ letter, (c, letter) ∉ shortEscapes) :
    (c ≠ '"' ∧ c ≠ '\\') ∧
      escapeChar c = if c.toNat < 0x20 then ['\\', 'u', '0', '0'] ++ hexPair c.toNat else [c] := by
  have hne : ∀ d, (d, (shortEscapes.lookup d).getD d) ∈ shortEscapes → c ≠ d := by
    rintro d hd rfl
    exact h _ hd
  have hquote := hne '"' (by decide)
  have hbackslash := hne '\\' (by decide)
  refine ⟨⟨hquote, hbackslash⟩, ?_⟩
  rw [escapeChar, if_neg hquote, if_neg hbackslash, if_neg (hne '\x08' (by decide)),
    if_neg (hne '\t' (by decide)), if_neg (hne '\n' (by decide)), if_neg (hne '\x0c' (by decide)),
    if_neg (hne '\r' (by decide))]

theorem readUnicode_hexPair {c : Char} (h : c.toNat < 0x20) (rest : List Char) :
    readUnicode ('0' :: '0' :: (hexPair c.toNat ++ rest)) = some (c, rest) := by
  have hdigit : ∀ n < 16, hexValue? (Nat.digitChar n) = some n := by decide
  have hzero : hexValue? '0' = some 0 := hdigit 0 (by decide)
  have hread : readHex4 ('0' :: '0' :: (hexPair c.toNat ++ rest)) = some (c.toNat, rest) := by
    simp [readHex4, hexPair, hzero, hdigit (c.toNat / 16) (by omega), hdigit (c.toNat % 16) (by omega)]
    omega
  have hhigh : ¬ 0xD800 ≤ c.toNat := by omega
  have hlow : ¬ 0xDC00 ≤ c.toNat := by omega
  rw [readUnicode, hread]
  simp [hhigh, hlow, Char.ofNat_toNat]

theorem readChars_escapeChar (fuel : Nat) (c : Char) (rest : List Char) :
    readChars (fuel + 1) (escapeChar c ++ rest) =
      (readChars fuel rest).map fun read => (c :: read.1, read.2) := by
  have hescape : ∀ cs, readEscape cs = some (c, rest) →
      readChars (fuel + 1) ('\\' :: cs) = (readChars fuel rest).map fun read => (c :: read.1, read.2) := by
    intro cs hcs
    cases hread : readChars fuel rest <;> simp [readChars, hcs, hread]
  by_cases hshort : ∃ letter, (c, letter) ∈ shortEscapes
  · obtain ⟨letter, hmem⟩ := hshort
    obtain ⟨heq, hread⟩ := escapeChar_of_mem hmem
    rw [heq]
    exact hescape _ (hread rest)
  · obtain ⟨⟨hquote, hbackslash⟩, heq⟩ := escapeChar_of_not_mem (not_exists.1 hshort)
    rw [heq]
    by_cases hcontrol : c.toNat < 0x20
    · rw [if_pos hcontrol]
      apply hescape
      simp [readEscape, readUnicode_hexPair hcontrol]
    · rw [if_neg hcontrol]
      cases hread : readChars fuel rest <;> simp [readChars, hquote, hbackslash, hcontrol, hread]

theorem readChars_flatMap (cs rest : List Char) {fuel : Nat} (h : cs.length < fuel) :
    readChars fuel (cs.flatMap escapeChar ++ '"' :: rest) = some (cs, rest) := by
  induction cs generalizing fuel with
  | nil =>
    obtain ⟨n, rfl⟩ : ∃ n, fuel = n + 1 := Nat.exists_eq_add_one.2 h
    simp [readChars]
  | cons c cs ih =>
    obtain ⟨n, rfl⟩ : ∃ n, fuel = n + 1 := Nat.exists_eq_add_one.2 (Nat.zero_lt_of_lt h)
    rw [List.flatMap_cons, List.append_assoc, readChars_escapeChar, ih (Nat.lt_of_succ_lt_succ h)]
    rfl

theorem length_le_flatMap (cs : List Char) : cs.length ≤ (cs.flatMap escapeChar).length := by
  induction cs with
  | nil => exact Nat.le_refl 0
  | cons c cs ih =>
    have hc : 0 < (escapeChar c).length := by
      unfold escapeChar
      split_ifs <;> simp
    rw [List.flatMap_cons, List.length_append, List.length_cons]
    omega

theorem readString_flatMap (s : String) (rest : List Char) :
    readString (s.toList.flatMap escapeChar ++ '"' :: rest) = some (s, rest) := by
  have hlength : s.toList.length < (s.toList.flatMap escapeChar ++ '"' :: rest).length + 1 := by
    have hle := length_le_flatMap s.toList
    rw [List.length_append]
    omega
  rw [readString, readChars_flatMap _ _ hlength]
  simp

end Strings

/-- Nothing but blanks. -/
def AreSpaces (cs : List Char) : Prop := ∀ c ∈ cs, isSpace c

mutual

/-- The layouts of a value. -/
inductive IsLayout : Json → List Char → Prop
  | null : IsLayout .null "null".toList
  | bool (b : Bool) : IsLayout (.bool b) (if b then "true" else "false").toList
  | string (s : String) : IsLayout (.string s) (quoted s).toList
  | emptyArray {gap : List Char} : AreSpaces gap → IsLayout (.array []) ('[' :: (gap ++ [']']))
  | array {items : List Json} {gap cs : List Char} :
    AreSpaces gap → AreItems items cs → IsLayout (.array items) ('[' :: (gap ++ cs ++ [']']))
  | emptyObject {gap : List Char} : AreSpaces gap → IsLayout (.object []) ('\x7b' :: (gap ++ ['\x7d']))
  | object {fields : List (String × Json)} {gap cs : List Char} :
    AreSpaces gap → AreFields fields cs → IsLayout (.object fields) ('\x7b' :: (gap ++ cs ++ ['\x7d']))

/-- The items of an array, from the first token on. -/
inductive AreItems : List Json → List Char → Prop
  | last {v : Json} {cs back : List Char} : IsLayout v cs → AreSpaces back → AreItems [v] (cs ++ back)
  | more {v : Json} {items : List Json} {cs back gap rest : List Char} :
    IsLayout v cs → AreSpaces back → AreSpaces gap → AreItems items rest →
      AreItems (v :: items) (cs ++ back ++ ',' :: (gap ++ rest))

/-- The fields of an object, from the first token on. -/
inductive AreFields : List (String × Json) → List Char → Prop
  | last {k : String} {v : Json} {before behind cs back : List Char} :
    AreSpaces before → AreSpaces behind → IsLayout v cs → AreSpaces back →
      AreFields [(k, v)] ((quoted k).toList ++ before ++ ':' :: (behind ++ cs ++ back))
  | more {k : String} {v : Json} {fields : List (String × Json)}
      {before behind cs back gap rest : List Char} :
    AreSpaces before → AreSpaces behind → IsLayout v cs → AreSpaces back → AreSpaces gap →
      AreFields fields rest →
      AreFields ((k, v) :: fields)
        ((quoted k).toList ++ before ++ ':' :: (behind ++ cs ++ back ++ ',' :: (gap ++ rest)))

end

section Reading

theorem skipSpace_append {gap : List Char} (h : AreSpaces gap) (cs : List Char) :
    skipSpace (gap ++ cs) = skipSpace cs :=
  List.dropWhile_append_of_pos h

theorem skipSpace_cons {c : Char} (h : isSpace c = false) (cs : List Char) :
    skipSpace (c :: cs) = c :: cs :=
  List.dropWhile_cons_of_neg (by simp [h])

theorem IsLayout.exists_cons {v : Json} {cs : List Char} (h : IsLayout v cs) :
    ∃ c rest, cs = c :: rest ∧ isSpace c = false ∧ c ≠ ']' := by
  cases h with
  | null => exact ⟨'n', _, rfl, by decide⟩
  | bool b =>
    cases b
    · exact ⟨'f', _, rfl, by decide⟩
    · exact ⟨'t', _, rfl, by decide⟩
  | string s => exact ⟨'"', s.toList.flatMap escapeChar ++ ['"'], by simp [quoted], by decide⟩
  | emptyArray => exact ⟨'[', _, rfl, by decide⟩
  | array => exact ⟨'[', _, rfl, by decide⟩
  | emptyObject => exact ⟨'\x7b', _, rfl, by decide⟩
  | object => exact ⟨'\x7b', _, rfl, by decide⟩

theorem AreItems.exists_cons {vs : List Json} {cs : List Char} (h : AreItems vs cs) :
    ∃ c rest, cs = c :: rest ∧ isSpace c = false ∧ c ≠ ']' := by
  cases h with
  | last hv =>
    obtain ⟨c, rest, rfl, hc⟩ := hv.exists_cons
    exact ⟨c, _, rfl, hc⟩
  | more hv =>
    obtain ⟨c, rest, rfl, hc⟩ := hv.exists_cons
    exact ⟨c, _, rfl, hc⟩

theorem toList_quoted (s : String) : (quoted s).toList = '"' :: (s.toList.flatMap escapeChar ++ ['"']) := by
  simp [quoted]

theorem AreFields.exists_cons {fs : List (String × Json)} {cs : List Char} (h : AreFields fs cs) :
    ∃ rest, cs = '"' :: rest := by
  cases h with
  | last =>
    rw [toList_quoted]
    exact ⟨_, rfl⟩
  | more =>
    rw [toList_quoted]
    exact ⟨_, rfl⟩

theorem skipSpace_sign {back : List Char} (h : AreSpaces back) {c : Char} (hc : isSpace c = false)
    (rest : List Char) : skipSpace (back ++ c :: rest) = c :: rest := by
  rw [skipSpace_append h, skipSpace_cons hc]

theorem areSpaces_nil : AreSpaces [] := by
  simp [AreSpaces]

mutual

/-- A value is read from each of its layouts, whatever follows it. -/
theorem IsLayout.readValue {v : Json} {cs : List Char} (h : IsLayout v cs) {fuel : Nat} {gap : List Char}
    (hgap : AreSpaces gap) (hfuel : cs.length < fuel) (rest : List Char) :
    Json.readValue fuel (gap ++ (cs ++ rest)) = some (v, rest) := by
  obtain ⟨n, rfl⟩ : ∃ n, fuel = n + 1 := Nat.exists_eq_add_one.2 (Nat.zero_lt_of_lt hfuel)
  rw [Json.readValue, skipSpace_append hgap]
  cases h with
  | null => simp [skipSpace_cons (c := 'n') (by decide), readWord]
  | bool b =>
    cases b
    · simp [skipSpace_cons (c := 'f') (by decide), readWord]
    · simp [skipSpace_cons (c := 't') (by decide), readWord]
  | string s =>
    rw [toList_quoted, List.cons_append, skipSpace_cons (by decide), List.append_assoc]
    simp [readString_flatMap]
  | emptyArray hspaces =>
    rw [List.cons_append, skipSpace_cons (by decide), List.append_assoc]
    simp [skipSpace_sign hspaces (c := ']') (by decide)]
  | array hspaces hitems =>
    obtain ⟨c, more, rfl, hspace, hc⟩ := hitems.exists_cons
    have hlength : (c :: more).length + 1 < n := by
      simp only [List.length_cons, List.length_append, List.length_nil] at hfuel ⊢
      omega
    have hread := hitems.readItems areSpaces_nil hlength rest
    rw [List.nil_append, List.cons_append] at hread
    rw [List.cons_append, skipSpace_cons (by decide), List.append_assoc, List.append_assoc]
    simp [skipSpace_sign hspaces hspace, hc, hread]
  | emptyObject hspaces =>
    rw [List.cons_append, skipSpace_cons (by decide), List.append_assoc]
    simp [skipSpace_sign hspaces (c := '\x7d') (by decide)]
  | object hspaces hfields =>
    obtain ⟨more, rfl⟩ := hfields.exists_cons
    have hlength : ('"' :: more).length + 1 < n := by
      simp only [List.length_cons, List.length_append, List.length_nil] at hfuel ⊢
      omega
    have hread := hfields.readFields areSpaces_nil hlength rest
    rw [List.nil_append, List.cons_append] at hread
    rw [List.cons_append, skipSpace_cons (by decide), List.append_assoc, List.append_assoc]
    simp [skipSpace_sign hspaces (c := '"') (by decide), hread]

theorem AreItems.readItems {vs : List Json} {cs : List Char} (h : AreItems vs cs) {fuel : Nat}
    {gap : List Char} (hgap : AreSpaces gap) (hfuel : cs.length + 1 < fuel) (rest : List Char) :
    Json.readItems fuel (gap ++ (cs ++ ']' :: rest)) = some (vs, rest) := by
  obtain ⟨n, rfl⟩ : ∃ n, fuel = n + 1 := Nat.exists_eq_add_one.2 (Nat.zero_lt_of_lt hfuel)
  cases h with
  | last hv hback =>
    simp only [List.length_append] at hfuel
    have hread := hv.readValue hgap (by omega : _ < n)
    rw [List.append_assoc, Json.readItems, hread]
    simp [skipSpace_sign hback (c := ']') (by decide)]
  | more hv hback hspaces hvs =>
    simp only [List.length_append, List.length_cons] at hfuel
    have hread := hv.readValue hgap (by omega : _ < n)
    have hmore := hvs.readItems hspaces (by omega : _ < n) rest
    rw [List.append_assoc, List.append_assoc, Json.readItems, hread]
    simp [skipSpace_sign hback (c := ',') (by decide), hmore]

theorem AreFields.readFields {fs : List (String × Json)} {cs : List Char} (h : AreFields fs cs) {fuel : Nat}
    {gap : List Char} (hgap : AreSpaces gap) (hfuel : cs.length + 1 < fuel) (rest : List Char) :
    Json.readFields fuel (gap ++ (cs ++ '\x7d' :: rest)) = some (fs, rest) := by
  obtain ⟨n, rfl⟩ : ∃ n, fuel = n + 1 := Nat.exists_eq_add_one.2 (Nat.zero_lt_of_lt hfuel)
  rw [Json.readFields, skipSpace_append hgap]
  cases h with
  | last hbefore hbehind hv hback =>
    simp only [List.length_append, List.length_cons] at hfuel
    have hread := hv.readValue hbehind (by omega : _ < n)
    rw [toList_quoted, List.cons_append, List.cons_append, List.cons_append, skipSpace_cons (by decide)]
    simp [readString_flatMap, skipSpace_sign hbefore (c := ':') (by decide), hread,
      skipSpace_sign hback (c := '\x7d') (by decide)]
  | more hbefore hbehind hv hback hspaces hfs =>
    simp only [List.length_append, List.length_cons] at hfuel
    have hread := hv.readValue hbehind (by omega : _ < n)
    have hmore := hfs.readFields hspaces (by omega : _ < n) rest
    rw [toList_quoted, List.cons_append, List.cons_append, List.cons_append, skipSpace_cons (by decide)]
    simp [readString_flatMap, skipSpace_sign hbefore (c := ':') (by decide), hread,
      skipSpace_sign hback (c := ',') (by decide), hmore]

end

/-- A text is read as the value that it is a layout of, with blanks behind it or not. -/
theorem IsLayout.ofText? {v : Json} {cs back : List Char} (h : IsLayout v cs) (hback : AreSpaces back)
    {s : String} (hs : s.toList = cs ++ back) : Json.ofText? s = some v := by
  have hlength : cs.length < (cs ++ back).length + 1 := by
    rw [List.length_append]
    omega
  have hread := h.readValue areSpaces_nil hlength back
  rw [List.nil_append] at hread
  have hend : skipSpace back = [] := by
    have hskip := skipSpace_append hback []
    rwa [List.append_nil] at hskip
  simp only [Json.ofText?, hs]
  rw [hread]
  simp [hend]

end Reading

section Writing

/-- Both writers lay the value out. -/
structure IsLaidOut (v : Json) : Prop where
  compact : IsLayout v (Json.compact v).toList
  prettyAt : ∀ level, IsLayout v (Json.prettyAt level v).toList

theorem isLaidOut_string (s : String) : IsLaidOut (.string s) where
  compact := .string s
  prettyAt _ := .string s

theorem isLaidOut_bool (b : Bool) : IsLaidOut (.bool b) where
  compact := .bool b
  prettyAt _ := .bool b

theorem areSpaces_newline (level : Nat) : AreSpaces (newline level).toList := by
  intro c hc
  have hc : c = '\n' ∨ c = ' ' := by
    simp only [newline, String.toList_append, String.toList_ofList, List.mem_append] at hc
    rcases hc with hc | hc
    · exact .inl (List.mem_singleton.1 hc)
    · exact .inr (List.eq_of_mem_replicate hc)
  rcases hc with rfl | rfl
  · rfl
  · rfl

theorem compactItems_eq (items : List Json) : compactItems items = items.map compact := by
  induction items with
  | nil => rfl
  | cons v vs ih => rw [compactItems, ih, List.map_cons]

theorem compactFields_eq (fields : List (String × Json)) :
    compactFields fields = fields.map fun f => quoted f.1 ++ ":" ++ compact f.2 := by
  induction fields with
  | nil => rfl
  | cons f fs ih => rw [compactFields, ih, List.map_cons]

theorem prettyItems_eq (level : Nat) (items : List Json) :
    prettyItems level items = items.map (prettyAt level) := by
  induction items with
  | nil => rfl
  | cons v vs ih => rw [prettyItems, ih, List.map_cons]

theorem prettyFields_eq (level : Nat) (fields : List (String × Json)) :
    prettyFields level fields = fields.map fun f => quoted f.1 ++ ": " ++ prettyAt level f.2 := by
  induction fields with
  | nil => rfl
  | cons f fs ih => rw [prettyFields, ih, List.map_cons]

section Members

variable (text : Json → List Char) {gap back behind : List Char}

theorem areItems_intercalate (hgap : AreSpaces gap) (hback : AreSpaces back) {items : List Json}
    (hne : items ≠ []) (h : ∀ v ∈ items, IsLayout v (text v)) :
    AreItems items ((',' :: gap).intercalate (items.map text) ++ back) := by
  induction items with
  | nil => exact absurd rfl hne
  | cons v vs ih =>
    have hv := h v List.mem_cons_self
    cases vs with
    | nil => simpa using AreItems.last hv hback
    | cons w vs =>
      have hrest := ih (by simp) fun u hu => h u (List.mem_cons_of_mem v hu)
      have hmore := AreItems.more hv areSpaces_nil hgap hrest
      simpa [List.intercalate_cons_cons] using hmore

theorem areFields_intercalate (hgap : AreSpaces gap) (hback : AreSpaces back) (hbehind : AreSpaces behind)
    {fields : List (String × Json)} (hne : fields ≠ []) (h : ∀ f ∈ fields, IsLayout f.2 (text f.2)) :
    AreFields fields ((',' :: gap).intercalate
      (fields.map fun f => (quoted f.1).toList ++ ':' :: (behind ++ text f.2)) ++ back) := by
  induction fields with
  | nil => exact absurd rfl hne
  | cons f fs ih =>
    have hf := h f List.mem_cons_self
    cases fs with
    | nil => simpa using AreFields.last (k := f.1) areSpaces_nil hbehind hf hback
    | cons g fs =>
      have hrest := ih (by simp) fun u hu => h u (List.mem_cons_of_mem f hu)
      have hmore := AreFields.more (k := f.1) areSpaces_nil hbehind hf areSpaces_nil hgap hrest
      simpa [List.intercalate_cons_cons] using hmore

end Members

theorem isLaidOut_array {items : List Json} (h : ∀ v ∈ items, IsLaidOut v) : IsLaidOut (.array items) := by
  by_cases hne : items = []
  · subst hne
    have hempty : IsLayout (.array []) ['[', ']'] := .emptyArray areSpaces_nil
    exact ⟨hempty, fun level => by simpa [prettyAt, prettyItems, block] using hempty⟩
  constructor
  · have hitems := areItems_intercalate (fun v => (compact v).toList) areSpaces_nil areSpaces_nil hne
      fun v hv => (h v hv).compact
    have harray := IsLayout.array areSpaces_nil hitems
    simpa [compact, compactItems_eq, String.toList_intercalate, Function.comp_def] using harray
  · intro level
    have hitems := areItems_intercalate (fun v => (prettyAt (level + 1) v).toList)
      (areSpaces_newline (level + 1)) (areSpaces_newline level) hne
      fun v hv => (h v hv).prettyAt (level + 1)
    have harray := IsLayout.array (areSpaces_newline (level + 1)) hitems
    simpa [prettyAt, prettyItems_eq, block, hne, String.toList_intercalate, Function.comp_def] using harray

theorem isLaidOut_object {fields : List (String × Json)} (h : ∀ f ∈ fields, IsLaidOut f.2) :
    IsLaidOut (.object fields) := by
  by_cases hne : fields = []
  · subst hne
    have hempty : IsLayout (.object []) ['\x7b', '\x7d'] := .emptyObject areSpaces_nil
    exact ⟨hempty, fun level => by simpa [prettyAt, prettyFields, block] using hempty⟩
  constructor
  · have hfields := areFields_intercalate (fun v => (compact v).toList) areSpaces_nil areSpaces_nil
      areSpaces_nil hne fun f hf => (h f hf).compact
    have hobject := IsLayout.object areSpaces_nil hfields
    simpa [compact, compactFields_eq, String.toList_intercalate, Function.comp_def] using hobject
  · intro level
    have hspace : AreSpaces [' '] := by
      simp [AreSpaces, isSpace]
    have hfields := areFields_intercalate (fun v => (prettyAt (level + 1) v).toList)
      (areSpaces_newline (level + 1)) (areSpaces_newline level) hspace hne
      fun f hf => (h f hf).prettyAt (level + 1)
    have hobject := IsLayout.object (areSpaces_newline (level + 1)) hfields
    simpa [prettyAt, prettyFields_eq, block, hne, String.toList_intercalate, Function.comp_def] using hobject

end Writing

end SqlSchema.Json
