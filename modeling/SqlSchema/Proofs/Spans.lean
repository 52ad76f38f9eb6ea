import SqlSchema.Proofs.Scanning
import SqlSchema.Proofs.Slices
import SqlSchema.Statement.Element
/-!
# Spans of tokens

The tokens of joined pieces, and the source text from one token to another: it is the text of the
pieces between them, wherever those stand in a script.
-/
namespace SqlSchema

/-- The token `n` bytes further on. -/
def Token.shift (n : Nat) (t : Token) : Token := ⟨t.kind, n + t.start, n + t.stop⟩

@[simp] theorem Token.shift_kind (n : Nat) (t : Token) : (t.shift n).kind = t.kind := rfl

/-- The token that a piece gives at a place. -/
def Piece.tokenAt? (offset : Nat) (p : Piece) : Option Token :=
  p.token?.map fun kind => ⟨kind, offset, offset + p.size⟩

/-- The tokens among the pieces, of which the first starts at `offset`. -/
def tokensIn (offset : Nat) : List Piece → List Token
  | [] => []
  | p :: ps => (p.tokenAt? offset).toList ++ tokensIn (offset + p.size) ps

@[simp] theorem tokensIn_nil (offset : Nat) : tokensIn offset [] = [] := rfl

@[simp] theorem tokensIn_cons (offset : Nat) (p : Piece) (ps : List Piece) :
    tokensIn offset (p :: ps) = (p.tokenAt? offset).toList ++ tokensIn (offset + p.size) ps :=
  rfl

theorem tokensOf_eq (offset : Nat) (ps : List Piece) :
    tokensOf offset ps =
      tokensIn offset ps ++
        [⟨.endOfText, offset + Text.byteSize (rawText ps), offset + Text.byteSize (rawText ps)⟩] := by
  induction ps generalizing offset with
  | nil => rfl
  | cons p ps ih =>
    rw [tokensOf, ih]
    cases h : p.token? <;>
      simp [h, Piece.tokenAt?, Piece.size, Text.byteSize_append, Nat.add_assoc]

theorem tokensIn_append (offset : Nat) (ps qs : List Piece) :
    tokensIn offset (ps ++ qs) =
      tokensIn offset ps ++ tokensIn (offset + Text.byteSize (rawText ps)) qs := by
  induction ps generalizing offset with
  | nil => rfl
  | cons p ps ih => simp [ih, Piece.size, Nat.add_assoc]

theorem tokensIn_shift (n offset : Nat) (ps : List Piece) :
    tokensIn (n + offset) ps = (tokensIn offset ps).map (Token.shift n) := by
  induction ps generalizing offset with
  | nil => rfl
  | cons p ps ih =>
    rw [tokensIn_cons, tokensIn_cons, Nat.add_assoc, ih, List.map_append]
    cases h : p.token? <;> simp [h, Piece.tokenAt?, Token.shift, Nat.add_assoc]

theorem tokensIn_eq_shift (n : Nat) (ps : List Piece) :
    tokensIn n ps = (tokensIn 0 ps).map (Token.shift n) :=
  tokensIn_shift n 0 ps

theorem tokensOf_append (offset : Nat) (ps qs : List Piece) :
    tokensOf offset (ps ++ qs) =
      tokensIn offset ps ++ tokensOf (offset + Text.byteSize (rawText ps)) qs := by
  simp [tokensOf_eq, tokensIn_append, Nat.add_assoc]

theorem tokensOf_eq_shift (n : Nat) (ps : List Piece) :
    tokensOf n ps = (tokensOf 0 ps).map (Token.shift n) := by
  simp [tokensOf_eq, tokensIn_eq_shift n, Token.shift]

theorem kind_tokensIn (offset : Nat) (ps : List Piece) :
    (tokensIn offset ps).map (·.kind) = ps.filterMap Piece.token? := by
  induction ps generalizing offset with
  | nil => rfl
  | cons p ps ih =>
    simp only [tokensIn_cons, List.map_append, ih]
    cases h : p.token? <;> simp [h, Piece.tokenAt?]

theorem tokenize_eq_ok_iff {d : Dialect} {text : String} {ts : List Token} :
    tokenize d text = .ok ts ↔
      (scan d text.toList).2 = [] ∧ ts = tokensOf 0 (scan d text.toList).1 := by
  unfold tokenize
  obtain ⟨ps, left⟩ := scan d text.toList
  cases left <;> simp [eq_comm]

theorem tokenize_ofList {d : Dialect} {cs : List Char} {ts : List Token} (hleft : (scan d cs).2 = [])
    (hts : tokensOf 0 (scan d cs).1 = ts) : tokenize d (String.ofList cs) = .ok ts := by
  rw [tokenize_eq_ok_iff, String.toList_ofList]
  exact ⟨hleft, hts.symm⟩

theorem tokenize_eq_error_iff {d : Dialect} {text : String} :
    (∃ position, tokenize d text = .error position) ↔ (scan d text.toList).2 ≠ [] := by
  unfold tokenize
  obtain ⟨ps, left⟩ := scan d text.toList
  cases left <;> simp

theorem Piece.Lexeme.token?_ne {d : Dialect} {p : Piece} {next : Option Char} (h : Lexeme d p next) :
    p.token? ≠ some .endOfText := by
  cases h with
  | @punctuation c kind _ hkind _ =>
    intro hk
    obtain rfl : kind = .endOfText := Option.some.inj hk
    grind [punctuation?]
  | _ => simp [token?]

theorem kind_ne_of_mem_tokensIn {d : Dialect} {ps : List Piece} {next : Option Char}
    (h : Lexemes d ps next) {offset : Nat} {t : Token} (ht : t ∈ tokensIn offset ps) :
    t.kind ≠ .endOfText := by
  induction ps generalizing offset with
  | nil => simp at ht
  | cons p ps ih =>
    rw [tokensIn_cons, List.mem_append] at ht
    rcases ht with ht | ht
    · have hp := h.1.token?_ne
      rintro hk
      rw [Option.mem_toList, Piece.tokenAt?, Option.map_eq_some_iff] at ht
      obtain ⟨kind, hkind, rfl⟩ := ht
      exact hp (hkind.trans (congrArg some hk))
    · exact ih h.2 ht

theorem stop_of_mem_tokensIn {offset : Nat} {ps : List Piece} {t : Token}
    (h : t ∈ tokensIn offset ps) : t.stop ≤ offset + Text.byteSize (rawText ps) := by
  induction ps generalizing offset with
  | nil => simp at h
  | cons p ps ih =>
    rw [tokensIn_cons, List.mem_append] at h
    simp only [rawText_cons, Text.byteSize_append]
    rcases h with h | h
    · cases hp : p.token? with
      | none => simp [hp, Piece.tokenAt?] at h
      | some kind =>
        simp only [Piece.tokenAt?, hp, Option.map_some, Option.toList_some,
          List.mem_singleton] at h
        simp only [h, Piece.size]
        omega
    · have := ih h
      simp only [Piece.size] at this
      omega

theorem stop_of_mem_tokensOf {ps : List Piece} {t : Token} (h : t ∈ tokensOf 0 ps) :
    t.stop ≤ Text.byteSize (rawText ps) := by
  rw [tokensOf_eq, List.mem_append, List.mem_singleton] at h
  rcases h with h | rfl
  · simpa using stop_of_mem_tokensIn h
  · simp

theorem exists_split_of_tokensIn {offset : Nat} {ps : List Piece} {xs ys : List Token}
    (h : tokensIn offset ps = xs ++ ys) :
    ∃ qs rs, ps = qs ++ rs ∧ tokensIn offset qs = xs ∧
      tokensIn (offset + Text.byteSize (rawText qs)) rs = ys := by
  induction ps generalizing offset xs with
  | nil =>
    obtain ⟨rfl, rfl⟩ := List.nil_eq_append_iff.1 h
    exact ⟨[], [], rfl, rfl, rfl⟩
  | cons p ps ih =>
    cases xs with
    | nil => exact ⟨[], p :: ps, rfl, rfl, h⟩
    | cons x xs =>
      cases hp : p.tokenAt? offset with
      | none =>
        rw [tokensIn_cons, hp] at h
        obtain ⟨qs, rs, rfl, hq, hr⟩ := ih h
        exact ⟨p :: qs, rs, rfl, by simpa [hp] using hq,
          by simpa [Piece.size, Nat.add_assoc] using hr⟩
      | some t =>
        rw [tokensIn_cons, hp, Option.toList_some, List.cons_append, List.cons_append,
          List.cons.injEq] at h
        obtain ⟨qs, rs, rfl, hq, hr⟩ := ih h.2
        exact ⟨p :: qs, rs, rfl, by simpa [hp, hq] using h.1,
          by simpa [Piece.size, Nat.add_assoc] using hr⟩

/-- Pieces that start and end with a token. -/
def IsRun (ps : List Piece) : Prop :=
  ps.head?.any (·.token?.isSome) ∧ ps.getLast?.any (·.token?.isSome)

private theorem exists_first_token {offset : Nat} {ps : List Piece} {t : Token} {ts : List Token}
    (h : tokensIn offset ps = t :: ts) :
    ∃ qs p rs, ps = qs ++ p :: rs ∧ tokensIn offset qs = [] ∧ p.token?.isSome := by
  induction ps generalizing offset with
  | nil => simp at h
  | cons p ps ih =>
    cases hp : p.token? with
    | none =>
      rw [tokensIn_cons, Piece.tokenAt?, hp] at h
      obtain ⟨qs, q, rs, rfl, hq, hsome⟩ := ih h
      exact ⟨p :: qs, q, rs, rfl, by simpa [Piece.tokenAt?, hp] using hq, hsome⟩
    | some kind => exact ⟨[], p, ps, rfl, rfl, by simp [hp]⟩

private theorem exists_last_token {offset : Nat} {ps : List Piece} (h : tokensIn offset ps ≠ []) :
    ∃ qs p rs, ps = qs ++ p :: rs ∧ p.token?.isSome ∧
      tokensIn offset (qs ++ [p]) = tokensIn offset ps := by
  induction ps generalizing offset with
  | nil => simp at h
  | cons p ps ih =>
    by_cases hrest : tokensIn (offset + p.size) ps = []
    · cases hp : p.token? with
      | none => simp [Piece.tokenAt?, hp, hrest] at h
      | some kind => exact ⟨[], p, ps, rfl, by simp [hp], by simp [hrest]⟩
    · obtain ⟨qs, q, rs, rfl, hsome, heq⟩ := ih hrest
      exact ⟨p :: qs, q, rs, rfl, hsome, by rw [List.cons_append, tokensIn_cons, heq]; rfl⟩

/-- The pieces from one token to another. -/
theorem exists_run_of_tokensIn {offset : Nat} {ps : List Piece} {xs ys zs : List Token}
    (h : tokensIn offset ps = xs ++ ys ++ zs) (hy : ys ≠ []) :
    ∃ qs run rs, ps = qs ++ run ++ rs ∧ IsRun run ∧ tokensIn offset qs = xs ∧
      tokensIn (offset + Text.byteSize (rawText qs)) run = ys := by
  obtain ⟨front, rs, rfl, hfront, -⟩ := exists_split_of_tokensIn h
  obtain ⟨qs, mid, rfl, hqs, hmid⟩ := exists_split_of_tokensIn hfront
  obtain ⟨y, ys, rfl⟩ := List.exists_cons_of_ne_nil hy
  obtain ⟨before, first, mid, rfl, hbefore, hfirst⟩ := exists_first_token hmid
  rw [tokensIn_append, hbefore, List.nil_append] at hmid
  obtain ⟨inner, last, after, hsplit, hlast, heq⟩ := exists_last_token (by rw [hmid]; simp)
  refine ⟨qs ++ before, inner ++ [last], after ++ rs, ?_, ⟨?_, by simpa using hlast⟩, ?_, ?_⟩
  · simp [hsplit]
  · cases inner with
    | nil =>
      obtain ⟨rfl, -⟩ := List.cons.inj hsplit
      simpa using hfirst
    | cons q inner =>
      obtain ⟨rfl, -⟩ := List.cons.inj hsplit
      simpa using hfirst
  · rw [tokensIn_append, hqs, hbefore, List.append_nil]
  · rw [rawText_append, Text.byteSize_append, ← Nat.add_assoc, heq, hmid]

theorem tokensIn_ends (offset : Nat) {ps : List Piece} (h : IsRun ps) :
    ∃ first last, (tokensIn offset ps).head? = some first ∧ (tokensIn offset ps).getLast? = some last ∧
      first.start = offset ∧ last.stop = offset + Text.byteSize (rawText ps) := by
  obtain ⟨hfirst, hlast⟩ := h
  obtain ⟨p, tail, rfl⟩ : ∃ p tail, ps = p :: tail := by cases ps <;> simp_all
  obtain ⟨qs, q, hq⟩ : ∃ qs q, p :: tail = qs ++ [q] :=
    ⟨_, _, (List.dropLast_concat_getLast (List.cons_ne_nil p tail)).symm⟩
  obtain ⟨k, hk⟩ : ∃ k, p.token? = some k := Option.isSome_iff_exists.1 (by simpa using hfirst)
  obtain ⟨l, hl⟩ : ∃ l, q.token? = some l :=
    Option.isSome_iff_exists.1 (by rw [hq] at hlast; simpa using hlast)
  refine ⟨⟨k, offset, offset + p.size⟩,
    ⟨l, offset + Text.byteSize (rawText qs), offset + Text.byteSize (rawText qs) + q.size⟩, ?_, ?_,
    rfl, ?_⟩
  · simp [Piece.tokenAt?, hk]
  · simp [hq, tokensIn_append, Piece.tokenAt?, hl]
  · simp [hq, Piece.size, Nat.add_assoc]

/-- The source text of the tokens of a run of pieces is the text of the pieces. -/
theorem sourceText_tokensIn {ps : List Piece} (h : IsRun ps) (before after : List Char) :
    sourceText (String.ofList (before ++ rawText ps ++ after))
        (tokensIn (Text.byteSize before) ps) =
      String.ofList (rawText ps) := by
  obtain ⟨first, last, hfirst, hlast, hstart, hstop⟩ := tokensIn_ends (Text.byteSize before) h
  have hslice := Text.slice?_middle (String.ofList before) (String.ofList (rawText ps))
    (String.ofList after)
  rw [Text.utf8ByteSize_ofList, Text.utf8ByteSize_ofList, ← String.ofList_append,
    ← String.ofList_append] at hslice
  simp only [sourceText, hfirst, hlast, hstart, hstop, hslice, Option.getD_some]

theorem sourceText_shift (before source after : List Char) {ts : List Token}
    (h : ∀ t ∈ ts, t.stop ≤ Text.byteSize source) :
    sourceText (String.ofList (before ++ source ++ after))
        (ts.map (Token.shift (Text.byteSize before))) =
      sourceText (String.ofList source) ts := by
  unfold sourceText
  rw [List.head?_map, List.getLast?_map]
  cases hfirst : ts.head? with
  | none => rfl
  | some first =>
    cases hlast : ts.getLast? with
    | none => rfl
    | some last =>
      have hstop : last.stop ≤ (String.ofList source).utf8ByteSize := by
        rw [Text.utf8ByteSize_ofList]
        exact h last (List.mem_of_getLast? hlast)
      have hright := Text.slice?_append_right (String.ofList before) (String.ofList source)
        first.start last.stop
      rw [← Text.slice?_append_left _ (String.ofList after), Text.utf8ByteSize_ofList,
        ← String.ofList_append, ← String.ofList_append] at hright
      · simp only [Option.map_some, Token.shift, hright]
      · rw [String.utf8ByteSize_append]
        omega

end SqlSchema
