import SqlSchema.Proofs.Squeezing
/-!
# Cut literals

A literal is cut short if no quote behind it closes it. It stays cut in a part of the text that does not
end within a pair of characters, and when blanks are squeezed.
-/
namespace SqlSchema.Piece

theorem splitLiteral_of_literal {escapes : Bool} {cs : List Char} (h : Literal escapes cs) :
    splitLiteral escapes cs = none := by
  induction h with
  | nil => rfl
  | quotes _ ih => simp [splitLiteral, ih]
  | escape he _ ih =>
    subst he
    simp [splitLiteral, ih]
  | @plain c cs hc he _ ih =>
    cases cs with
    | nil => simp [splitLiteral, hc]
    | cons d cs => simp [splitLiteral, hc, he, ih]

/-- Text that ends neither in a quote nor in a backslash holds no closing quote if there is none in it
and what follows it. -/
theorem literal_of_splitLiteral_append {escapes : Bool} {cs rest : List Char}
    (h : splitLiteral escapes (cs ++ rest) = none) (hquote : cs.getLast? ≠ some '\'')
    (hback : cs.getLast? ≠ some '\\') : Literal escapes cs := by
  match cs with
  | [] => exact .nil
  | [c] =>
    refine .plain ?_ (fun hc => ?_) .nil
    · simpa using hquote
    · simp [hc.1] at hback
  | c :: d :: cs =>
    have hlast {x : Char} (hx : (c :: d :: cs).getLast? ≠ some x) : cs.getLast? ≠ some x := by
      intro hcs
      cases cs with
      | nil => simp at hcs
      | cons e cs => exact hx (by simpa using hcs)
    rw [List.cons_append, List.cons_append, splitLiteral] at h
    split at h
    · next hpair =>
      have hrest := literal_of_splitLiteral_append (by simpa using h) (hlast hquote)
        (hlast hback)
      rcases hpair with ⟨rfl, rfl⟩ | ⟨rfl, he⟩
      · exact .quotes hrest
      · exact .escape he hrest
    · next hpair =>
      split at h
      · simp at h
      · next hc =>
        refine .plain hc (fun he => hpair (.inr he)) ?_
        exact literal_of_splitLiteral_append (by simpa using h)
          (by simpa using hquote) (by simpa using hback)
termination_by cs.length

private theorem readPlain_of_isCut {d : Dialect} {c : Char} {cs rest : List Char} {p : Piece}
    (h : readPlain d c cs = (p, rest)) (hcut : p.isCut) :
    (c = '\'' ∧ readLiteral (d == .mysql) ['\''] cs = (p, rest)) ∨
      ∃ more, c.toLower = 'e' ∧ cs = '\'' :: more ∧ readLiteral true [c, '\''] more = (p, rest) := by
  have hne {q : Piece} {r : List Char} (hq : q.isCut = false) (heq : (q, r) = (p, rest)) : False := by
    obtain ⟨rfl, -⟩ := Prod.mk.inj heq
    simp [hq] at hcut
  unfold readPlain at h
  split at h
  · exact (hne rfl h).elim
  split at h
  · exact (hne rfl h).elim
  split at h
  · exact (hne rfl h).elim
  split at h
  · unfold readBlockComment at h
    split at h <;> exact (hne rfl h).elim
  split at h
  · exact (hne rfl h).elim
  split at h
  · next hc =>
    subst hc
    exact .inl ⟨rfl, h⟩
  split at h
  · exact (hne rfl h).elim
  split at h
  · unfold readWord at h
    simp only at h
    split at h
    · next e more htext hmore =>
      split at h
      · next he =>
        obtain ⟨rfl, htake⟩ := List.cons.inj htext
        have happ := List.takeWhile_append_dropWhile (p := continuesWord d) (l := cs)
        rw [htake, hmore] at happ
        exact .inr ⟨more, he, happ.symm, h⟩
      · exact (hne rfl h).elim
    · exact (hne rfl h).elim
  · exact (hne rfl h).elim

theorem read?_of_isCut {d : Dialect} {c : Char} {cs rest : List Char} {p : Piece}
    (h : read? d c cs = some (p, rest)) (hcut : p.isCut) :
    (c = '\'' ∧ readLiteral (d == .mysql) ['\''] cs = (p, rest)) ∨
      ∃ more, c.toLower = 'e' ∧ cs = '\'' :: more ∧ readLiteral true [c, '\''] more = (p, rest) := by
  unfold read? at h
  split at h
  · simp only [readQuoted, Option.map_eq_some_iff, Prod.mk.injEq, Prod.exists] at h
    obtain ⟨_, _, -, rfl, -⟩ := h
    simp [isCut] at hcut
  · exact readPlain_of_isCut (Option.some.inj h) hcut

private theorem exists_isCut {d : Dialect} {c : Char} {cs text : List Char} {escapes : Bool}
    {lead : List Char} (hread : read? d c cs = some (readLiteral escapes lead text))
    (h : splitLiteral escapes text = none) : ∃ q ∈ (scan d (c :: cs)).1, q.isCut := by
  rw [readLiteral, h] at hread
  rw [scan_cons_of_read? hread]
  exact ⟨_, List.mem_cons_self, rfl⟩

/-- What opens a cut literal opens one in front of any text that does not close it. -/
theorem exists_lead_of_isCut {d : Dialect} {c : Char} {cs rest : List Char} {p : Piece}
    (h : read? d c cs = some (p, rest)) (hcut : p.isCut) :
    ∃ escapes lead text, lead ≠ [] ∧ (∀ x ∈ lead, Text.isBlank x = false) ∧ p.raw = lead ++ text ∧
      splitLiteral escapes (text ++ rest) = none ∧
      ∀ body, splitLiteral escapes body = none → ∃ q ∈ (scan d (lead ++ body)).1, q.isCut := by
  have key {escapes : Bool} {lead text : List Char} (hlit : readLiteral escapes lead text = (p, rest)) :
      ∃ front, p.raw = lead ++ front ∧ splitLiteral escapes (front ++ rest) = none := by
    unfold readLiteral at hlit
    split at hlit
    · obtain ⟨rfl, -⟩ := Prod.mk.inj hlit
      simp [isCut] at hcut
    · next hnone =>
      obtain ⟨rfl, rfl⟩ := Prod.mk.inj hlit
      exact ⟨_, rfl, by rwa [List.takeWhile_append_dropWhile]⟩
  rcases read?_of_isCut h hcut with ⟨rfl, hlit⟩ | ⟨more, he, rfl, hlit⟩
  · obtain ⟨text, hraw, hnone⟩ := key hlit
    exact ⟨_, _, text, by simp, List.forall_mem_singleton.2 rfl, hraw, hnone, fun body hbody =>
      exists_isCut (read?_quote d body) hbody⟩
  · obtain ⟨text, hraw, hnone⟩ := key hlit
    refine ⟨_, _, text, by simp, ?_, hraw, hnone, fun body hbody =>
      exists_isCut (read?_escape d he body) hbody⟩
    rcases eq_of_toLower he with rfl | rfl <;>
    exact List.forall_mem_cons.2 ⟨rfl, List.forall_mem_singleton.2 rfl⟩

end SqlSchema.Piece
