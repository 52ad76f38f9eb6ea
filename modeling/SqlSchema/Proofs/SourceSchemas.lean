import SqlSchema.Proofs.SourceTypes
import SqlSchema.Proofs.WellFormed
/-!
# The words of schemas that are read

The names of a schema that is read keep their lines when they are read again, and its types are cut out of
the script in one piece.
-/
namespace SqlSchema

theorem Text.IsSolid.undouble {close : Char} (hb : Text.isBlank close = false) {cs : List Char}
    (hreturn : '\r' ∉ cs) (hline : Text.HasNoBlankLine cs) :
    Text.IsSolid (String.ofList (QuoteStyle.undouble close cs)) := by
  refine ⟨?_, ?_⟩
  · rw [String.toList_ofList]
    exact fun h => hreturn (QuoteStyle.undouble_subset close cs h)
  · rw [String.toList_ofList, Text.HasNoBlankLine, QuoteStyle.lineState?_undouble hb]
    exact hline

private theorem isSolid_of_lexeme {d : Dialect} {p : Piece} {next : Option Char}
    (h : Piece.Lexeme d p next) {t : Token} (ht : p.token? = some t.kind) {name : String}
    (hname : t.name? = some name) (hreturn : '\r' ∉ p.raw) (hline : Text.HasNoBlankLine p.raw) :
    Text.IsSolid name := by
  obtain ⟨kind, start, stop⟩ := t
  cases h with
  | @quoted q body =>
    obtain rfl := Option.some.inj ht
    obtain rfl := Option.some.inj hname
    refine .undouble (by cases q <;> rfl) (fun hm => hreturn (by simp [hm])) ?_
    refine Text.HasNoBlankLine.part false [q.opening] [q.closing] ?_
    simpa [Text.HasNoBlankLine] using hline
  | @word c cs =>
    obtain rfl := Option.some.inj ht
    obtain rfl := Option.some.inj hname
    exact ⟨by rwa [String.toList_ofList], by rwa [String.toList_ofList]⟩
  | @punctuation c k _ hk =>
    obtain rfl : k = kind := Option.some.inj ht
    simp only [Token.name?] at hname
    grind [Piece.punctuation?]
  | literal =>
    obtain rfl := Option.some.inj ht
    cases hname
  | escapedLiteral =>
    obtain rfl := Option.some.inj ht
    cases hname
  | number =>
    obtain rfl := Option.some.inj ht
    cases hname
  | _ => simp [Piece.token?] at ht

theorem isSolid_of_mem_namesIn {d : Dialect} {cs : List Char} (hreturn : '\r' ∉ cs)
    (hline : Text.HasNoBlankLine cs) :
    ∀ name ∈ namesIn (tokensOf 0 (scan d cs).1), Text.IsSolid name := by
  intro name hname
  obtain ⟨t, ht, hname⟩ := List.mem_filterMap.1 hname
  rw [tokensOf_eq, List.mem_append, List.mem_singleton] at ht
  rcases ht with ht | rfl
  · have hkind : t.kind ∈ (scan d cs).1.filterMap Piece.token? := by
      rw [← kind_tokensIn 0]
      exact List.mem_map_of_mem ht
    obtain ⟨p, hp, htoken⟩ := List.mem_filterMap.1 hkind
    have hcut : p.isCut = false := by
      unfold Piece.token? at htoken
      unfold Piece.isCut
      split at htoken
      · simp [*]
      · simp [Token.name?, ← Option.some.inj htoken] at hname
      · cases htoken
    obtain ⟨_, hlexeme⟩ := exists_lexeme_of_mem_scan hp hcut
    obtain ⟨before, after, hpieces⟩ := List.append_of_mem hp
    have htext : rawText before ++ p.raw ++ (rawText after ++ (scan d cs).2) = cs := by
      have happ := rawText_scan d cs
      rw [hpieces] at happ
      simpa using happ
    refine isSolid_of_lexeme hlexeme htoken hname (fun hm => hreturn ?_) ?_
    · rw [← htext]
      simp [hm]
    · refine Text.HasNoBlankLine.part false (rawText before) (rawText after ++ (scan d cs).2) ?_
      rw [htext]
      exact hline
  · simp [Token.name?] at hname

theorem enclosed_of_readOutline? {ts : List Token} {name : String} {items : List (List Token)}
    (h : readOutline? ts = some (.body name items)) : ∀ item ∈ items, Enclosed item := by
  rw [readOutline?_eq] at h
  obtain ⟨_, -, h⟩ := Option.bind_eq_some_iff.1 h
  obtain ⟨ts', -, h⟩ := Option.bind_eq_some_iff.1 h
  obtain ⟨name', -, h⟩ := Option.map_eq_some_iff.1 h
  unfold outlineOf at h
  split at h
  · split at h
    · next hclosed =>
      obtain ⟨-, rfl⟩ := TableOutline.body.inj h
      intro item hitem
      exact enclosed_of_mem_splitCommas hclosed item (List.mem_filter.1 hitem).1
    · cases h
  · cases h

private theorem enclosed_type {first next : Token} {word : String} {tail rest : List Token}
    (hfirst : first.name?.isSome) (hnext : next.kind = .word word)
    (hitem : Enclosed (first :: next :: (tail ++ rest)))
    (htail : readTypeTail (tail ++ rest) = (tail, rest)) : Enclosed tail := by
  rw [enclosed_cons_of_isOrdinary (isOrdinary_of_name? hfirst),
    enclosed_cons_of_isOrdinary (isOrdinary_of_name? (by simp [Token.name?, hnext]))] at hitem
  refine ⟨(nested_append.1 hitem.1).1, ?_⟩
  have hdepth := depthFrom_readTypeTail (tail ++ rest)
  rw [htail] at hdepth
  rcases hdepth with h | rfl
  · exact h
  · simpa using hitem.2

namespace Ddl

theorem exists_isSlice_of_isTypeIn {d : Dialect} {text : String} {item : List Token} {type : String}
    (hscan : (scan d text.toList).2 = [])
    (hitem : item <:+: tokensIn 0 (scan d text.toList).1) (henclosed : Enclosed item)
    (h : IsTypeIn text item type) : ∃ run, IsSlice d type run := by
  obtain ⟨qs, run, rs, first, next, word, tail, rest, hpieces, hrun, rfl, hfirst, hnext, htail, htokens,
    htype⟩ := exists_run_of_isTypeIn hscan hitem h
  have hscanned := scan_rawText_of_scan
    (show (scan d text.toList).1 = qs ++ (run ++ rs) by simpa using hpieces)
  rw [tokensIn_eq_shift] at htokens
  obtain ⟨u, us, heq, rfl, rfl⟩ := List.map_eq_cons_iff.1 htokens
  have hbare : (us.map (Token.shift (Text.byteSize (rawText qs)))).map Token.bare =
      us.map Token.bare := by
    rw [List.map_map]
    rfl
  refine ⟨run, ⟨⟨_, rs, congrArg Prod.fst hscanned⟩, hrun, ⟨u, word, us, heq, hnext, ?_, ?_⟩, htype⟩⟩
  · exact readTypeTail_of_bare hbare (readTypeTail_self htail)
  · exact enclosed_of_bare hbare (enclosed_type hfirst hnext henclosed htail)

/-- The words of schemas that are read in a dialect. -/
def sourced (d : Dialect) : Vocabulary where
  name := Text.IsSolid
  type type := ∃ run, IsSlice d type run

theorem readStatements_sourced {d : Dialect} {text : String} {ts : List Token}
    (h : tokenize d text = .ok ts) (hreturn : '\r' ∉ text.toList)
    (hline : Text.HasNoBlankLine text.toList) (dedup : Bool) :
    ∀ t ∈ (schemaOf dedup (readStatements text ts)).tables, t.Within (sourced d) := by
  obtain ⟨hscan, rfl⟩ := tokenize_eq_ok_iff.1 h
  refine readStatements_within (v := sourced d) (isSolid_of_mem_namesIn hreturn hline)
    (fun statement hstatement type htype => ?_) dedup
  obtain ⟨name, items, item, houtline, hitem, htype⟩ := htype
  rw [tokensOf_eq, splitStatements_concat_end _ rfl] at hstatement
  exact exists_isSlice_of_isTypeIn hscan
    (((readOutline?_spec houtline).2 item hitem).trans (splitStatements_isInfix hstatement))
    (enclosed_of_readOutline? houtline item hitem) htype

theorem readSchema_sourced {options : ReadOptions} {input : String} {s : Schema}
    (h : readSchema options input = .ok s) :
    ∀ t ∈ s.tables, t.Within (sourced (options.dialect.resolve (Text.normalize input))) := by
  obtain ⟨ts, hts, rfl⟩ := readSchema_eq_ok h
  refine readStatements_sourced hts ?_ ?_ options.dedup
  · rw [Text.normalize, String.toList_ofList]
    exact Text.not_mem_normalizeChars _
  · rw [Text.normalize, String.toList_ofList]
    exact Text.hasNoBlankLine_normalizeChars _

end Ddl

end SqlSchema
