import SqlSchema.Proofs.Groups
/-!
# Rows of a list

The tokens of a list come in rows. A comma behind a row ends an item of the list, and where there is no
comma the item goes on in the next row. So each item starts where a row starts, and ends with it if the
row has a comma.
-/
namespace SqlSchema

/-- The pieces of a row, with those from its comma on in `back`. -/
structure Row where
  front : List Piece
  back : List Piece

def Row.pieces (r : Row) : List Piece := r.front ++ r.back

/-- The pieces of rows one after the other. -/
def rowsPieces (rows : List Row) : List Piece := rows.flatMap Row.pieces

/-- A row of tokens that neither split nor end a list, with a comma behind them or not. -/
structure Row.IsNested (r : Row) : Prop where
  nested : Nested 0 (tokensIn 0 r.front)
  nonempty : tokensIn 0 r.front ≠ []
  back : tokensIn 0 r.back = [] ∨ ∃ comma : Token, comma.kind = .comma ∧ tokensIn 0 r.back = [comma]

@[simp] theorem rowsPieces_cons (r : Row) (rows : List Row) :
    rowsPieces (r :: rows) = r.pieces ++ rowsPieces rows :=
  rfl

theorem nested_tokensIn (place depth : Nat) (ps : List Piece) :
    Nested depth (tokensIn place ps) ↔ Nested depth (tokensIn 0 ps) := by
  rw [tokensIn_eq_shift place, nested_map (keepsRole_shift place)]

theorem depthFrom_tokensIn (place depth : Nat) (ps : List Piece) :
    depthFrom depth (tokensIn place ps) = depthFrom depth (tokensIn 0 ps) := by
  rw [tokensIn_eq_shift place, depthFrom_map (keepsRole_shift place)]

private theorem tokensIn_rowsPieces (place : Nat) (r : Row) (rows : List Row) :
    tokensIn place (rowsPieces (r :: rows)) = tokensIn place r.front ++
      (tokensIn (place + Text.byteSize (rawText r.front)) r.back ++
        tokensIn (place + Text.byteSize (rawText r.pieces)) (rowsPieces rows)) := by
  simp [Row.pieces, tokensIn_append, Nat.add_assoc]

private theorem Row.IsNested.back_at {r : Row} (h : r.IsNested) (place : Nat) :
    tokensIn place r.back = [] ∨
      tokensIn 0 r.back ≠ [] ∧ ∃ comma : Token, comma.kind = .comma ∧ tokensIn place r.back = [comma] := by
  rw [tokensIn_eq_shift place]
  rcases h.back with heq | ⟨comma, hcomma, heq⟩
  · exact .inl (by rw [heq]; rfl)
  · exact .inr ⟨by simp [heq], comma.shift place, hcomma, by rw [heq]; rfl⟩

theorem endsStatement_of_mem_rowsPieces {rows : List Row} (h : ∀ r ∈ rows, r.IsNested) {place : Nat} :
    ∀ t ∈ tokensIn place (rowsPieces rows), t.endsStatement = false := by
  induction rows generalizing place with
  | nil => simp [rowsPieces]
  | cons r rows ih =>
    have hr := h r (by simp)
    intro t ht
    rw [tokensIn_rowsPieces, List.mem_append, List.mem_append] at ht
    rcases ht with ht | ht | ht
    · exact endsStatement_of_nested ((nested_tokensIn place 0 r.front).2 hr.nested) t ht
    · rcases hr.back_at (place + Text.byteSize (rawText r.front)) with hback | ⟨-, comma, hcomma, hback⟩
      · simp [hback] at ht
      · obtain rfl : t = comma := by simpa [hback] using ht
        simp [Token.endsStatement, hcomma]
    · exact ih (fun q hq => h q (by simp [hq])) t ht

private theorem splitBody_comma_at {comma : Token} (hc : comma.kind = .comma) (depth : Nat)
    (ts : List Token) : splitBody true depth (comma :: ts) =
      (comma :: (splitBody true depth ts).1, (splitBody true depth ts).2) := by
  rw [splitBody, if_neg (by simp [Token.endsStatement, hc]),
    show depthAfter depth comma = depth by simp [depthAfter, hc]]

/-- A list of rows that is closed behind them is closed by what stands there, and each of its rows
closes what it opens. -/
theorem splitBody_rowsPieces {rows : List Row} (h : ∀ r ∈ rows, r.IsNested) {closing : Token}
    (hclosing : closing.kind = .rightParen) {depth place : Nat}
    (hclosed : startsWith .rightParen
      (splitBody true depth (tokensIn place (rowsPieces rows) ++ [closing])).2) :
    depth = 0 ∧ (∀ r ∈ rows, Enclosed (tokensIn 0 r.front)) ∧
      splitBody true depth (tokensIn place (rowsPieces rows) ++ [closing]) =
        (tokensIn place (rowsPieces rows), [closing]) := by
  induction rows generalizing depth place with
  | nil =>
    have hnil : tokensIn place (rowsPieces []) ++ [closing] = [closing] := rfl
    rw [hnil] at hclosed ⊢
    cases depth with
    | zero => exact ⟨rfl, by simp, splitBody_closed closing hclosing []⟩
    | succ depth => simp [splitBody, Token.endsStatement, hclosing, startsWith] at hclosed
  | cons r rows ih =>
    have hr := h r (by simp)
    obtain ⟨hnested, hdepth⟩ := ((nested_tokensIn place 0 r.front).2 hr.nested).deeper depth
    rw [Nat.zero_add] at hnested hdepth
    rw [tokensIn_rowsPieces, List.append_assoc, splitBody_append_of_nested hnested, hdepth] at hclosed ⊢
    have hrest (hstarts : startsWith .rightParen
        (splitBody true (depthFrom 0 (tokensIn place r.front) + depth)
          (tokensIn (place + Text.byteSize (rawText r.pieces)) (rowsPieces rows) ++ [closing])).2) :=
      ih (fun q hq => h q (by simp [hq])) hstarts
    -- the list closes outside of groups only, so neither the row nor what is in front of it leaves one open
    have key : startsWith .rightParen (splitBody true (depthFrom 0 (tokensIn place r.front) + depth)
          (tokensIn (place + Text.byteSize (rawText r.pieces)) (rowsPieces rows) ++ [closing])).2 →
        depth = 0 ∧ ∀ q ∈ r :: rows, Enclosed (tokensIn 0 q.front) := by
      intro hstarts
      obtain ⟨h0, hall, -⟩ := hrest hstarts
      rw [depthFrom_tokensIn] at h0
      refine ⟨by omega, fun q hq => ?_⟩
      rcases List.mem_cons.1 hq with rfl | hq
      · exact ⟨hr.nested, by omega⟩
      · exact hall q hq
    rcases hr.back_at (place + Text.byteSize (rawText r.front)) with hback | ⟨-, comma, hcomma, hback⟩
    · rw [hback, List.nil_append] at hclosed ⊢
      obtain ⟨h0, hall⟩ := key hclosed
      exact ⟨h0, hall, by rw [(hrest hclosed).2.2]⟩
    · rw [hback, List.append_assoc, List.singleton_append, splitBody_comma_at hcomma] at hclosed ⊢
      obtain ⟨h0, hall⟩ := key hclosed
      exact ⟨h0, hall, by rw [(hrest hclosed).2.2]; rfl⟩

/-- Each item of a list starts with a row. It is that row alone if the row has a comma or is the last. -/
theorem exists_row_of_mem_splitCommas {rows : List Row} (h : ∀ r ∈ rows, r.IsNested)
    (henclosed : ∀ r ∈ rows, Enclosed (tokensIn 0 r.front)) {place : Nat} {item : List Token}
    (hitem : item ∈ splitCommas 0 (tokensIn place (rowsPieces rows))) (hne : item ≠ []) :
    ∃ before row after start, rows = before ++ row :: after ∧
      start = place + Text.byteSize (rawText (rowsPieces before)) ∧
      tokensIn start row.front <+: item ∧ item <+: tokensIn start (rowsPieces (row :: after)) ∧
      (tokensIn 0 row.back ≠ [] ∨ after = [] → item = tokensIn start row.front) := by
  induction rows generalizing place with
  | nil =>
    obtain rfl := List.mem_singleton.1 hitem
    exact absurd rfl hne
  | cons r rows ih =>
    have hr := h r (by simp)
    have hfront := (enclosed_tokensIn place r.front).2 (henclosed r (by simp))
    -- an item that starts behind this row starts with one of the rows behind it
    have later (hmem : item ∈ splitCommas 0
        (tokensIn (place + Text.byteSize (rawText r.pieces)) (rowsPieces rows))) :
        ∃ before row after start, r :: rows = before ++ row :: after ∧
          start = place + Text.byteSize (rawText (rowsPieces before)) ∧
          tokensIn start row.front <+: item ∧ item <+: tokensIn start (rowsPieces (row :: after)) ∧
          (tokensIn 0 row.back ≠ [] ∨ after = [] → item = tokensIn start row.front) := by
      obtain ⟨before, row, after, start, rfl, hstart, hrest⟩ :=
        ih (fun q hq => h q (by simp [hq])) (fun q hq => henclosed q (by simp [hq])) hmem
      refine ⟨r :: before, row, after, start, rfl, ?_, hrest⟩
      rw [hstart, rowsPieces_cons, rawText_append, Text.byteSize_append, Nat.add_assoc]
    rw [tokensIn_rowsPieces] at hitem
    rcases hr.back_at (place + Text.byteSize (rawText r.front)) with hback | ⟨-, comma, hcomma, hback⟩
    · rw [hback, List.nil_append, splitCommas_append_of_nested hfront.1, hfront.2] at hitem
      generalize hrows :
        tokensIn (place + Text.byteSize (rawText r.pieces)) (rowsPieces rows) = ts at hitem later
      obtain ⟨first, rest, heq⟩ := List.exists_cons_of_ne_nil (splitCommas_ne_nil 0 ts)
      rw [heq, List.modifyHead_cons] at hitem
      rcases List.mem_cons.1 hitem with rfl | hitem
      · refine ⟨[], r, rows, place, rfl, rfl, List.prefix_append _ _, ?_, ?_⟩
        · rw [tokensIn_rowsPieces, hback, List.nil_append, hrows]
          exact (List.prefix_append_right_inj _).2 (splitCommas_isPrefix heq)
        · rintro (hcomma | rfl)
          · rw [tokensIn_eq_shift, List.map_eq_nil_iff] at hback
            exact absurd hback hcomma
          · obtain rfl : [] = ts := hrows
            rw [splitCommas, List.cons.injEq] at heq
            rw [← heq.1, List.append_nil]
      · exact later (by rw [heq]; exact List.mem_cons_of_mem _ hitem)
    · rw [hback, List.singleton_append, splitCommas_append_comma hfront hcomma] at hitem
      rcases List.mem_cons.1 hitem with rfl | hitem
      · refine ⟨[], r, rows, place, rfl, rfl, List.prefix_refl _, ?_, fun _ => rfl⟩
        rw [tokensIn_rowsPieces]
        exact List.prefix_append _ _
      · exact later hitem

end SqlSchema
