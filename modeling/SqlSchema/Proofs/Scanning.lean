import SqlSchema.Proofs.Lexemes
/-!
# Scanning joined texts

A run of lexemes is scanned piece by piece, whatever text stands behind the character that follows it.
So a text can be scanned part by part, as long as no part ends inside a piece.
-/
namespace SqlSchema

theorem Piece.Lexeme.raw_ne_nil {d : Dialect} {p : Piece} {next : Option Char}
    (h : Lexeme d p next) : p.raw ≠ [] := by
  cases h <;> simp

theorem Piece.Lexeme.isCut {d : Dialect} {p : Piece} {next : Option Char} (h : Lexeme d p next) :
    p.isCut = false := by
  cases h <;> rfl

theorem Piece.Lexeme.exists_not_blank {d : Dialect} {p : Piece} {next : Option Char}
    (h : Lexeme d p next) (hp : p.token?.isSome) : ∃ c ∈ p.raw, Text.isBlank c = false := by
  cases h with
  | @quoted q body => exact ⟨q.opening, by simp, by cases q <;> rfl⟩
  | @punctuation c _ _ hkind => exact ⟨c, by simp, isBlank_of_punctuation? hkind⟩
  | literal => exact ⟨'\'', by simp, rfl⟩
  | escapedLiteral => exact ⟨'\'', by simp, rfl⟩
  | @number c cs _ hc => exact ⟨c, by simp, Text.isBlank_of_isDigit hc⟩
  | @word c cs _ hc => exact ⟨c, by simp, isBlank_of_opensWord hc⟩
  | _ => simp [token?] at hp

theorem Piece.Lexeme.raw_of_word {d : Dialect} {p : Piece} {next : Option Char} {text : String}
    (h : Lexeme d p next) (hp : p.token? = some (.word text)) : p.raw = text.toList := by
  cases h with
  | @punctuation c k _ hk _ =>
    obtain rfl : k = .word text := Option.some.inj hp
    grind [punctuation?]
  | @word c cs =>
    obtain rfl : String.ofList (c :: cs) = text := TokenKind.word.inj (Option.some.inj hp)
    rw [String.toList_ofList]
  | _ => simp [token?] at hp

/-- The text that the pieces were cut from. -/
def rawText (ps : List Piece) : List Char := ps.flatMap (·.raw)

@[simp] theorem rawText_nil : rawText [] = [] := rfl

@[simp] theorem rawText_cons (p : Piece) (ps : List Piece) : rawText (p :: ps) = p.raw ++ rawText ps :=
  rfl

@[simp] theorem rawText_append (ps qs : List Piece) :
    rawText (ps ++ qs) = rawText ps ++ rawText qs := by
  simp [rawText]

theorem scan_nil (d : Dialect) : scan d [] = ([], []) := by
  rw [scan]

theorem scan_cons_of_read? {d : Dialect} {c : Char} {cs rest : List Char} {p : Piece}
    (h : Piece.read? d c cs = some (p, rest)) :
    scan d (c :: cs) = (p :: (scan d rest).1, (scan d rest).2) := by
  rw [scan]
  split
  · next hn => simp [h] at hn
  · next q more hs =>
    rw [h, Option.some.injEq, Prod.mk.injEq] at hs
    rw [hs.1, hs.2]

theorem scan_cons_of_none {d : Dialect} {c : Char} {cs : List Char}
    (h : Piece.read? d c cs = none) : scan d (c :: cs) = ([], c :: cs) := by
  rw [scan]
  split
  · rfl
  · next hs => simp [h] at hs

/-- The pieces of a text and what is left of it make up the text. -/
theorem rawText_scan (d : Dialect) (cs : List Char) :
    rawText (scan d cs).1 ++ (scan d cs).2 = cs := by
  fun_induction scan d cs with
  | case1 => rfl
  | case2 => rfl
  | case3 c cs p rest h ps left hs ih =>
    rw [hs] at ih
    simp only [rawText_cons, List.append_assoc, ih]
    exact Piece.read?_append h

/-- Each piece is a lexeme in front of the next one, and the last piece in front of `next`. -/
def Lexemes (d : Dialect) : List Piece → Option Char → Prop
  | [], _ => True
  | p :: ps, next => Piece.Lexeme d p ((rawText ps).head?.or next) ∧ Lexemes d ps next

@[simp] theorem lexemes_nil (d : Dialect) (next : Option Char) : Lexemes d [] next := trivial

@[simp] theorem lexemes_cons (d : Dialect) (p : Piece) (ps : List Piece) (next : Option Char) :
    Lexemes d (p :: ps) next ↔
      Piece.Lexeme d p ((rawText ps).head?.or next) ∧ Lexemes d ps next :=
  Iff.rfl

theorem Lexemes.exists_lexeme {d : Dialect} {ps : List Piece} {next : Option Char} (h : Lexemes d ps next) :
    ∀ p ∈ ps, ∃ after, Piece.Lexeme d p after ∧ (after = none → next = none) := by
  induction ps with
  | nil => simp
  | cons p ps ih =>
    intro q hq
    rcases List.mem_cons.1 hq with rfl | hq
    · exact ⟨_, h.1, fun hnone => (Option.or_eq_none_iff.1 hnone).2⟩
    · exact ih h.2 q hq

theorem lexemes_append {d : Dialect} {ps qs : List Piece} {next : Option Char} :
    Lexemes d (ps ++ qs) next ↔
      Lexemes d ps ((rawText qs).head?.or next) ∧ Lexemes d qs next := by
  induction ps with
  | nil => simp
  | cons p ps ih =>
    simp only [List.cons_append, lexemes_cons, ih, rawText_append, List.head?_append,
      Option.or_assoc, and_assoc]

/-- Of several lexemes only the last one stands in front of what is behind them. -/
theorem lexemes_concat {d : Dialect} {ps : List Piece} {p : Piece} {next : Option Char} :
    Lexemes d (ps ++ [p]) next ↔ Lexemes d ps p.raw.head? ∧ Piece.Lexeme d p next := by
  have hhead (hp : Piece.Lexeme d p next) : (rawText [p]).head?.or next = p.raw.head? := by
    obtain ⟨c, cs, hraw⟩ := List.exists_cons_of_ne_nil hp.raw_ne_nil
    simp [hraw]
  rw [lexemes_append]
  constructor
  · rintro ⟨hps, hp, -⟩
    exact ⟨hhead hp ▸ hps, hp⟩
  · rintro ⟨hps, hp⟩
    exact ⟨by rwa [hhead hp], hp, trivial⟩

theorem scan_lexeme {d : Dialect} {p : Piece} {rest : List Char}
    (h : Piece.Lexeme d p rest.head?) :
    scan d (p.raw ++ rest) = (p :: (scan d rest).1, (scan d rest).2) := by
  obtain ⟨c, cs, hraw, hread⟩ := h.read?
  rw [hraw]
  exact scan_cons_of_read? hread

/-- A run of lexemes is scanned on its own, and then the text behind it. -/
theorem scan_append {d : Dialect} {ps : List Piece} (rest : List Char)
    (h : Lexemes d ps rest.head?) :
    scan d (rawText ps ++ rest) = (ps ++ (scan d rest).1, (scan d rest).2) := by
  induction ps with
  | nil => rfl
  | cons p ps ih =>
    have hp : Piece.Lexeme d p (rawText ps ++ rest).head? := by
      rw [List.head?_append]
      exact h.1
    rw [rawText_cons, List.append_assoc, scan_lexeme hp, ih h.2]
    rfl

theorem scan_rawText {d : Dialect} {ps : List Piece} (h : Lexemes d ps none) :
    scan d (rawText ps) = (ps, []) := by
  have hs := scan_append [] h
  rwa [List.append_nil, scan_nil, List.append_nil] at hs

theorem exists_read?_of_scan {d : Dialect} {cs : List Char} {p : Piece} {ps : List Piece}
    (h : (scan d cs).1 = p :: ps) : ∃ c more rest, cs = c :: more ∧
      Piece.read? d c more = some (p, rest) ∧ scan d rest = (ps, (scan d cs).2) := by
  cases cs with
  | nil => simp [scan_nil] at h
  | cons c more =>
    cases hread : Piece.read? d c more with
    | none => simp [scan_cons_of_none hread] at h
    | some r =>
      obtain ⟨q, rest⟩ := r
      have hscan := scan_cons_of_read? hread
      rw [hscan] at h
      obtain ⟨rfl, hps⟩ := List.cons.inj h
      exact ⟨c, more, rest, rfl, hread, by rw [hscan, ← hps]⟩

theorem lexemes_of_scan {d : Dialect} {cs : List Char} {ps qs : List Piece}
    (h : (scan d cs).1 = ps ++ qs) (hps : ∀ p ∈ ps, p.isCut = false) :
    Lexemes d ps (rawText qs ++ (scan d cs).2).head? := by
  induction ps generalizing cs with
  | nil => trivial
  | cons p ps ih =>
    obtain ⟨c, more, rest, rfl, hread, hscan⟩ :=
      exists_read?_of_scan (show (scan d cs).1 = p :: (ps ++ qs) from h)
    have hp := Piece.lexeme_of_read? hread (hps p (by simp))
    have happ := rawText_scan d rest
    rw [hscan, rawText_append, List.append_assoc] at happ
    rw [← happ, List.head?_append] at hp
    have hrest := ih (congrArg Prod.fst hscan) fun q hq => hps q (by simp [hq])
    rw [hscan] at hrest
    exact ⟨hp, hrest⟩

theorem lexemes_scan {d : Dialect} {cs : List Char} (h : ∀ p ∈ (scan d cs).1, p.isCut = false) :
    Lexemes d (scan d cs).1 (scan d cs).2.head? :=
  lexemes_of_scan (List.append_nil _).symm h

theorem scan_rawText_of_scan {d : Dialect} {cs : List Char} {ps qs : List Piece}
    (h : (scan d cs).1 = ps ++ qs) :
    scan d (rawText qs ++ (scan d cs).2) = (qs, (scan d cs).2) := by
  induction ps generalizing cs with
  | nil =>
    obtain rfl : (scan d cs).1 = qs := h
    rw [rawText_scan]
  | cons p ps ih =>
    obtain ⟨c, more, rest, rfl, -, hscan⟩ :=
      exists_read?_of_scan (show (scan d cs).1 = p :: (ps ++ qs) from h)
    have key := ih (congrArg Prod.fst hscan)
    rwa [hscan] at key

theorem exists_lexeme_of_mem_scan {d : Dialect} {cs : List Char} {p : Piece}
    (hp : p ∈ (scan d cs).1) (hcut : p.isCut = false) : ∃ next, Piece.Lexeme d p next := by
  fun_induction scan d cs with
  | case1 => simp at hp
  | case2 => simp at hp
  | case3 c cs q rest hread ps left hs ih =>
    rw [hs] at ih
    rcases List.mem_cons.1 hp with rfl | hp
    · exact ⟨_, Piece.lexeme_of_read? hread hcut⟩
    · exact ih hp

/-- A character that may stand behind a lexeme in place of a blank. -/
def isSeam (c : Char) : Bool :=
  Text.isBlank c || c = '(' || c = ')' || c = '[' || c = ',' || c = ';'

/-- Nothing but what a lexeme cannot be continued with stands at either place. -/
def Alike (before after : Option Char) : Prop :=
  before = after ∨ (before.all Text.isBlank ∧ after.all isSeam)

theorem Alike.refl (a : Option Char) : Alike a a := .inl rfl

private theorem class_of_isSeam {p : Char → Bool} {c : Char} (hc : isSeam c)
    (hb : ∀ x, Text.isBlank x → p x = false)
    (hp : p '(' = false ∧ p ')' = false ∧ p '[' = false ∧ p ',' = false ∧ p ';' = false) :
    p c = false := by
  simp only [isSeam, Bool.or_eq_true, decide_eq_true_eq] at hc
  obtain ⟨h1, h2, h3, h4, h5⟩ := hp
  rcases hc with ((((hc | rfl) | rfl) | rfl) | rfl) | rfl
  · exact hb c hc
  all_goals assumption

private theorem Alike.ne {a b : Option Char} {x : Char} (h : Alike a b) (ha : a ≠ some x)
    (hx : isSeam x = false) : b ≠ some x := by
  rintro rfl
  rcases h with rfl | ⟨-, hb⟩
  · exact ha rfl
  · simp [hx] at hb

private theorem Alike.all_not {a b : Option Char} {p : Char → Bool} (h : Alike a b)
    (ha : a.all (fun x => !p x)) (hb : ∀ x, Text.isBlank x → p x = false)
    (hp : p '(' = false ∧ p ')' = false ∧ p '[' = false ∧ p ',' = false ∧ p ';' = false) :
    b.all (fun x => !p x) := by
  rcases h with rfl | ⟨-, h⟩
  · exact ha
  · cases b with
    | none => rfl
    | some c => simpa using class_of_isSeam (by simpa using h) hb hp

/-- A lexeme stays one if the blank behind it makes way for another seam. -/
theorem Piece.Lexeme.before {d : Dialect} {p : Piece} {a b : Option Char} (h : Lexeme d p a)
    (hab : Alike a b) (hl : p.kind ≠ .lineComment) (ho : p.kind ≠ .blockComment false) :
    Lexeme d p b := by
  cases h with
  | blank hc => exact .blank hc
  | @quoted q body _ hq hbody hk hnext =>
    refine .quoted hq hbody hk (hab.ne hnext ?_)
    cases q <;> rfl
  | lineComment => simp at hl
  | blockComment hbody => exact .blockComment hbody
  | openComment => simp at ho
  | @punctuation c kind _ hkind hk =>
    refine .punctuation hkind fun hc => ?_
    rcases hk hc with rfl | hk
    · rcases hab with rfl | ⟨ha, -⟩
      · exact .inl rfl
      · simp [show Text.isBlank ']' = false from rfl] at ha
    · exact .inr hk
  | literal hbody hnext => exact .literal hbody (hab.ne hnext rfl)
  | escapedLiteral he hbody hnext => exact .escapedLiteral he hbody (hab.ne hnext rfl)
  | number hc hcs hnext =>
    refine .number hc hcs (hab.all_not hnext (fun x hx => continuesNumber_of_isBlank hx) ?_)
    simp [continuesNumber]
  | @word c cs _ hc hcs hnext he hhash =>
    refine .word hc hcs (hab.all_not hnext (fun x hx => continuesWord_of_isBlank hx) ?_)
      (fun hcs hce => hab.ne (he hcs hce) rfl) ?_
    · cases d <;> decide
    · rintro ⟨rfl, hopens⟩
      refine hhash ⟨rfl, ?_⟩
      rcases hab with rfl | ⟨ha, hb⟩
      · exact hopens
      cases cs with
      | cons x cs => simpa [hashOpensComment] using hopens
      | nil => cases a <;> simp_all [hashOpensComment]
  | stray hs hb hminus hslash hp hquote hd hw =>
    refine .stray hs hb (fun h => ?_) (fun h => ?_) hp hquote hd hw
    · exact hab.ne (fun ha => hminus ⟨h.1, ha⟩) rfl h.2
    · exact hab.ne (fun ha => hslash ⟨h.1, ha⟩) rfl h.2

/-- A piece that ends where it ends, whatever seam stands behind it. -/
def Piece.isComplete (p : Piece) : Bool :=
  p.kind != .lineComment && p.kind != .blockComment false && !p.isCut

theorem Piece.Lexeme.before_of_isComplete {d : Dialect} {p : Piece} {a b : Option Char}
    (h : Lexeme d p a) (hab : Alike a b) (hp : p.isComplete) : Lexeme d p b := by
  simp only [isComplete, Bool.and_eq_true, bne_iff_ne] at hp
  exact h.before hab hp.1.1 hp.1.2

/-- What stands behind a run of lexemes concerns none but the last of them. -/
theorem Lexemes.of_last {d : Dialect} {ps : List Piece} {a b : Option Char} (h : Lexemes d ps a)
    (hlast : ∀ p, ps.getLast? = some p → Piece.Lexeme d p a → Piece.Lexeme d p b) : Lexemes d ps b := by
  rcases List.eq_nil_or_concat ps with rfl | ⟨front, p, rfl⟩
  · trivial
  · rw [List.concat_eq_append] at hlast h ⊢
    obtain ⟨hfront, hp⟩ := lexemes_concat.1 h
    exact lexemes_concat.2 ⟨hfront, hlast p List.getLast?_concat hp⟩

theorem Lexemes.before {d : Dialect} {ps : List Piece} {a b : Option Char} (h : Lexemes d ps a)
    (hab : Alike a b) (hps : ∀ p, ps.getLast? = some p → p.isComplete) : Lexemes d ps b :=
  h.of_last fun p hp hlex => hlex.before_of_isComplete hab (hps p hp)

end SqlSchema
