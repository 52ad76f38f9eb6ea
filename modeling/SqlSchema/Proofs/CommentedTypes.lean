import SqlSchema.Proofs.SourceTypes
/-!
# Types that end in a comment

A type that a comment runs out of is not read again: the comment takes in what is written behind the
type, and what is read in its place has fewer visible characters or more.
-/
namespace SqlSchema.Ddl

private theorem visible_ne {d : Dialect} {ps after run rs : List Piece} {comment : Piece} {x : Char}
    {line more : List Char} (hkind : comment.kind = .lineComment) (hraw : comment.raw = x :: line ++ more)
    (hx : Text.isBlank x = false) (hafter : ∀ p ∈ after, ∃ next, Piece.Lexeme d p next)
    (hsplit : ps ++ comment :: after = run ++ rs) (hrun : IsRun run) :
    (Text.visible (rawText run)).length ≠ (Text.visible (rawText ps ++ x :: line)).length := by
  have hpos : 0 < (Text.visible (x :: line)).length := by simp [Text.visible, hx]
  rw [Text.visible_append, List.length_append]
  rcases List.append_eq_append_iff.1 hsplit with ⟨inner, rfl, hinner⟩ | ⟨inner, rfl, -⟩
  · cases inner with
    | nil =>
      rw [List.append_nil]
      omega
    | cons q inner =>
      obtain ⟨rfl, rfl⟩ := List.cons.inj hinner
      have hlast := hrun.2
      rcases List.eq_nil_or_concat inner with rfl | ⟨front, last, rfl⟩
      · simp [hkind, Piece.token?] at hlast
      · rw [List.concat_eq_append, ← List.cons_append, ← List.append_assoc, List.getLast?_concat,
          Option.any_some] at hlast
        obtain ⟨_, hlexeme⟩ := hafter last (by simp)
        obtain ⟨c, hc, hb⟩ := hlexeme.exists_not_blank hlast
        have hvisible : 0 < (Text.visible last.raw).length :=
          List.length_pos_of_mem (List.mem_filter.2 ⟨hc, by simp [hb]⟩)
        simp only [List.concat_eq_append, rawText_append, rawText_cons, rawText_nil, hraw,
          Text.visible_append, List.length_append, List.append_nil]
        omega
  · rw [rawText_append, Text.visible_append, List.length_append]
    omega

private theorem visible_ne_hash {d : Dialect} {run : List Piece} {word : String}
    (hlexemes : ∀ p ∈ run, p.token?.isSome → ∃ next, Piece.Lexeme d p next)
    (hmem : TokenKind.word word ∈ run.filterMap Piece.token?) (hword : isBare word.toList) :
    Text.visible (rawText run) ≠ ['#'] := by
  intro hvisible
  obtain ⟨p, hp, htoken⟩ := List.mem_filterMap.1 hmem
  obtain ⟨_, hlexeme⟩ := hlexemes p hp (by simp [htoken])
  obtain ⟨c, hc, hb⟩ := hlexeme.exists_not_blank (by simp [htoken])
  have hin : c ∈ Text.visible (rawText run) :=
    List.mem_filter.2 ⟨List.mem_flatMap.2 ⟨p, hp, hc⟩, by simp [hb]⟩
  obtain rfl : c = '#' := by simpa [hvisible] using hin
  simp only [isBare, Bool.and_eq_true, List.all_eq_true] at hword
  have hbare := hword.2 '#' (by rwa [← hlexeme.raw_of_word htoken])
  simp [isBareChar] at hbare

private theorem eq_nil_of_head {place : Nat} {ps qs rest : List Piece}
    (h : ps.head?.any (·.token?.isSome)) (hps : ps = qs ++ rest) (hqs : tokensIn place qs = []) :
    qs = [] := by
  subst hps
  cases qs with
  | nil => rfl
  | cons q qs =>
    obtain ⟨kind, hk⟩ := Option.isSome_iff_exists.1 (show q.token?.isSome by simpa using h)
    simp [Piece.tokenAt?, hk] at hqs

/-- What is read in place of a type with a comment is another type. -/
theorem IsCommented.type_ne {d : Dialect} {next : Char} {type : String} {ps : List Piece} {x : Char}
    {line : List Char} (h : IsCommented d next type ps x line) {comment : Piece} {more : List Char}
    (hkind : comment.kind = .lineComment) (hraw : comment.raw = x :: line ++ more) {after : List Piece}
    (hafter : Lexemes d after none)
    (hfirst : ∀ word, (after.filterMap Piece.token?).head? = some (.word word) → isBare word.toList)
    (before behind : List Char) {u : Token} {tail rest : List Token} {word : String}
    (htokens : tokensIn (Text.byteSize before) (ps ++ comment :: after) = u :: (tail ++ rest))
    (hu : u.kind = .word word) :
    Text.collapse (sourceText (String.ofList (before ++ rawText (ps ++ comment :: after) ++ behind))
        (u :: tail)) ≠ type := by
  intro heq
  -- the type that is read would have the visible characters of the one that was written
  have hlexemes (p : Piece) (hp : p ∈ after) : ∃ next, Piece.Lexeme d p next :=
    (hafter.exists_lexeme p hp).imp fun _ hlexeme => hlexeme.1
  have hx : Text.isBlank x = false := by
    rcases h.opens [] with ⟨rfl, -⟩ | ⟨rfl, -⟩ <;> rfl
  obtain ⟨qs, run, rs, hpieces, hrun, hqs, htail⟩ :=
    exists_run_of_tokensIn (show tokensIn (Text.byteSize before) (ps ++ comment :: after) =
      [] ++ (u :: tail) ++ rest from htokens) (by simp)
  have htext : before ++ rawText (ps ++ comment :: after) ++ behind =
      (before ++ rawText qs) ++ rawText run ++ (rawText rs ++ behind) := by
    rw [hpieces]
    simp
  have hsource := sourceText_tokensIn hrun (before ++ rawText qs) (rawText rs ++ behind)
  rw [Text.byteSize_append, htail, ← htext] at hsource
  have hvisible : Text.visible (rawText run) = Text.visible (rawText ps ++ x :: line) := by
    rw [← h.raw, ← heq, hsource, Text.visible_collapse, String.toList_ofList]
  have hcomment : comment.token? = none := by simp [Piece.token?, hkind]
  rcases h.tokens with ⟨hhead, -⟩ | ⟨rfl, rfl⟩
  · have hstarts : (ps ++ comment :: after).head?.any (·.token?.isSome) := by
      cases ps with
      | nil => simp at hhead
      | cons => exact hhead
    obtain rfl := eq_nil_of_head hstarts (hpieces.trans (List.append_assoc qs run rs)) hqs
    exact visible_ne hkind hraw hx hlexemes (by simpa using hpieces) hrun (congrArg List.length hvisible)
  · have hline : x :: line = ['#'] := by simpa using h.raw.symm
    have hkinds := congrArg (List.map (·.kind)) htokens
    rw [kind_tokensIn, List.nil_append, List.filterMap_cons_none hcomment, List.map_cons] at hkinds
    have hmem : TokenKind.word word ∈ run.filterMap Piece.token? := by
      rw [← kind_tokensIn _ run, htail, ← hu]
      simp
    refine visible_ne_hash (d := d) (fun p hp hsome => ?_) hmem (hfirst word (by rw [hkinds, hu]; rfl)) ?_
    · have hin : p ∈ comment :: after := by
        rw [List.nil_append] at hpieces
        rw [hpieces]
        simp [hp]
      rcases List.mem_cons.1 hin with rfl | hin
      · simp [hcomment] at hsome
      · exact hlexemes p hin
    · rw [hvisible, hline]
      rfl

end SqlSchema.Ddl
