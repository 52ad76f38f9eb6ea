import SqlSchema.Proofs.Detection
import SqlSchema.Proofs.Packing
import SqlSchema.Proofs.StatementPieces
/-!
# Texts of statements

A statement that is put together from texts is cut into the pieces that these are cut into on their own, as
long as each of them ends where the next sign stands. Normalizing it packs each of the texts, and an element
that is added by a statement of its own does not change the dialect that the script suggests.
-/
namespace SqlSchema

open Ddl

/-- The pieces that a text is cut into in front of another piece. -/
def piecesBefore (next : Piece) (d : Dialect) (text : String) : List Piece :=
  (scan d (text.toList ++ next.raw)).1.dropLast

/-- A text that ends where the next piece starts: it closes its quotes and its comments. -/
structure EndsBefore (next : Piece) (d : Dialect) (text : String) : Prop where
  scanned : scan d (text.toList ++ next.raw) = (piecesBefore next d text ++ [next], [])
  uncut : ∀ p ∈ piecesBefore next d text, p.isCut = false

instance (next : Piece) (d : Dialect) (text : String) : Decidable (EndsBefore next d text) :=
  decidable_of_iff (scan d (text.toList ++ next.raw) = (piecesBefore next d text ++ [next], []) ∧
    ∀ p ∈ piecesBefore next d text, p.isCut = false) ⟨fun h => ⟨h.1, h.2⟩, fun h => ⟨h.scanned, h.uncut⟩⟩

/-- The pieces of a table's name, which a blank stands behind. -/
def tableNamePieces : Dialect → String → List Piece := piecesBefore (blankPiece ' ')

/-- The pieces of an element, which a comma stands behind, or another sign that ends it. -/
def elementPieces : Dialect → String → List Piece := piecesBefore (signPiece ',' .comma)

/-- The text of a table's name, which may have a schema in front. -/
structure IsTableName (d : Dialect) (text name : String) : Prop where
  ended : EndsBefore (blankPiece ' ') d text
  named : IsNamed (tableNamePieces d text) name

instance (d : Dialect) (text name : String) : Decidable (IsTableName d text name) :=
  decidable_of_iff (EndsBefore (blankPiece ' ') d text ∧ IsNamed (tableNamePieces d text) name)
    ⟨fun h => ⟨h.1, h.2⟩, fun h => ⟨h.ended, h.named⟩⟩

/-- The text of an element of a table: it ends no list and no statement that it stands in. -/
structure IsElement (d : Dialect) (text : String) : Prop where
  ended : EndsBefore (signPiece ',' .comma) d text
  enclosed : Enclosed (tokensIn 0 (elementPieces d text))

instance (d : Dialect) (text : String) : Decidable (IsElement d text) :=
  decidable_of_iff (EndsBefore (signPiece ',' .comma) d text ∧
    Enclosed (tokensIn 0 (elementPieces d text))) ⟨fun h => ⟨h.1, h.2⟩, fun h => ⟨h.ended, h.enclosed⟩⟩

/-- A CREATE TABLE statement with the given elements. -/
def createText (name : String) (elements : List String) : String :=
  "CREATE TABLE " ++ name ++ " (" ++ ", ".intercalate elements ++ ");"

/-- An ALTER TABLE statement that adds an element. -/
def addText (name element : String) : String := "ALTER TABLE " ++ name ++ " ADD " ++ element ++ ";"

section Pieces

/-- A sign that ends an element. -/
def endsElement (c : Char) : Bool := c = ',' || c = ')' || c = ';'

variable {d : Dialect} {ps qs : List Piece} {c : Char}

theorem isSeam_of_endsElement (h : endsElement c) : isSeam c := by
  simp only [endsElement, Bool.or_eq_true, decide_eq_true_eq] at h
  rcases h with (rfl | rfl) | rfl <;> rfl

private theorem isBlank_of_endsElement (h : endsElement c) : Text.isBlank c = false := by
  simp only [endsElement, Bool.or_eq_true, decide_eq_true_eq] at h
  rcases h with (rfl | rfl) | rfl <;> rfl

theorem Piece.Lexeme.before_sign {p : Piece} {a b : Char} (h : Lexeme d p (some a)) (ha : endsElement a)
    (hb : endsElement b) : Lexeme d p (some b) := by
  have hseam := isSeam_of_endsElement hb
  cases h with
  | blank hc => exact .blank hc
  | @quoted q body _ hq hbody hk _ =>
    refine .quoted hq hbody hk (ne_of_isSeam hseam ?_)
    cases q <;> rfl
  | lineComment hline hopens hend =>
    rcases hend with rfl | ⟨-, hnone⟩
    · exact .lineComment hline hopens (.inl rfl)
    · simp at hnone
  | blockComment hbody => exact .blockComment hbody
  | punctuation hkind hk =>
    refine .punctuation hkind fun hc => (hk hc).imp_left fun hbracket => ?_
    exact absurd hbracket (ne_of_isSeam (isSeam_of_endsElement ha) rfl)
  | literal hbody _ => exact .literal hbody (ne_of_isSeam hseam rfl)
  | escapedLiteral he hbody _ => exact .escapedLiteral he hbody (ne_of_isSeam hseam rfl)
  | number hc hcs _ => exact .number hc hcs (by simp [continuesNumber_of_isSeam hseam])
  | @word c cs _ hc hcs _ _ hhash =>
    refine .word hc hcs (by simp [continuesWord_of_isSeam d hseam]) (fun _ _ => ne_of_isSeam hseam rfl) ?_
    cases cs with
    | cons x cs => exact hhash
    | nil =>
      have ha := isBlank_of_endsElement ha
      have hb := isBlank_of_endsElement hb
      simpa [hashOpensComment, ha, hb] using hhash
  | stray hs hblank _ _ hp hquote hd hw =>
    exact .stray hs hblank (fun h => ne_of_isSeam hseam rfl h.2) (fun h => ne_of_isSeam hseam rfl h.2) hp
      hquote hd hw

/-- The pieces of an element: they stay what they are in front of all signs that end it. -/
def EndsAtSigns (d : Dialect) (ps : List Piece) : Prop := ∀ c, endsElement c → Lexemes d ps (some c)

theorem endsAtSigns_of_lexemes (hc : endsElement c) (h : Lexemes d ps (some c)) : EndsAtSigns d ps := by
  intro c' hc'
  exact h.of_last fun p _ hp => hp.before_sign hc hc'

theorem isSelfContained_append (hp : Lexemes d ps (some c)) (hhead : (rawText qs).head? = some c)
    (hq : IsSelfContained d qs) : IsSelfContained d (ps ++ qs) := by
  intro next
  apply lexemes_append.2
  rw [hhead]
  exact ⟨hp, hq next⟩

theorem endsAtSigns_bodyPieces {es : List (List Piece)} (h : ∀ e ∈ es, EndsAtSigns d e) :
    EndsAtSigns d (bodyPieces es) := by
  have hsep : IsSelfContained d [signPiece ',' .comma, blankPiece ' '] :=
    (isSelfContained_signPiece d rfl (by decide)).append (isSelfContained_space d)
  exact fun c hc => lexemes_intercalate _ hsep rfl fun e he => ⟨h e he ',' rfl, h e he c hc⟩

variable {t e : List Piece} {es : List (List Piece)}

private theorem isSelfContained_named {first second : String} (hfirst : isBare first.toList)
    (hsecond : isBare second.toList) (ht : Lexemes d t (some ' ')) {ps : List Piece}
    (hps : IsSelfContained d (blankPiece ' ' :: ps)) :
    IsSelfContained d (phrasePieces first second ++ t ++ blankPiece ' ' :: ps) := by
  rw [List.append_assoc]
  apply (isSelfContained_phrasePieces d hfirst hsecond).append
  exact isSelfContained_append ht rfl hps

private theorem isSelfContained_semicolon (d : Dialect) :
    IsSelfContained d [signPiece ';' .semicolon] :=
  isSelfContained_signPiece d rfl (by decide)

theorem isSelfContained_createPieces (ht : Lexemes d t (some ' ')) (hes : ∀ e ∈ es, EndsAtSigns d e) :
    IsSelfContained d (createPieces t es ++ [signPiece ';' .semicolon]) := by
  have hparen : IsSelfContained d [blankPiece ' ', signPiece '(' .leftParen] :=
    (isSelfContained_space d).append (isSelfContained_signPiece d rfl (by decide))
  have hclose : IsSelfContained d [signPiece ')' .rightParen] :=
    isSelfContained_signPiece d rfl (by decide)
  have hopen : IsSelfContained d (openPieces t) := isSelfContained_named rfl rfl ht hparen
  have hbody := isSelfContained_append (endsAtSigns_bodyPieces hes ')' rfl) rfl hclose
  rw [createPieces, List.append_assoc (openPieces t)]
  exact (hopen.append hbody).append (isSelfContained_semicolon d)

theorem isSelfContained_addPieces (ht : Lexemes d t (some ' ')) (he : EndsAtSigns d e) :
    IsSelfContained d (addPieces t e ++ [signPiece ';' .semicolon]) := by
  have hadd : IsSelfContained d [wordPiece "ADD", blankPiece ' '] := isSelfContained_keyword d rfl
  rw [addPieces, List.append_assoc]
  apply (isSelfContained_named rfl rfl ht ((isSelfContained_space d).append hadd)).append
  exact isSelfContained_append (he ';' rfl) rfl (isSelfContained_semicolon d)

end Pieces

section Texts

variable {d : Dialect} {text t c name : String} {es : List String}

namespace EndsBefore

variable {next : Piece} (h : EndsBefore next d text)

include h

theorem rawText_pieces : rawText (piecesBefore next d text) = text.toList := by
  have hraw := rawText_scan d (text.toList ++ next.raw)
  rw [h.scanned, rawText_append, List.append_nil, rawText_cons, rawText_nil, List.append_nil] at hraw
  exact List.append_cancel_right hraw

theorem lexemes : Lexemes d (piecesBefore next d text) next.raw.head? := by
  have hlex := lexemes_of_scan (congrArg Prod.fst h.scanned) h.uncut
  rwa [h.scanned, List.append_nil, rawText_cons, rawText_nil, List.append_nil] at hlex

end EndsBefore

theorem toList_createText (t : String) (es : List String) :
    (createText t es).toList = "CREATE TABLE ".toList ++ t.toList ++ " (".toList ++
      (", ".intercalate es).toList ++ ");".toList :=
  toList_five _ _ _ _ _

theorem toList_addText (t c : String) :
    (addText t c).toList = "ALTER TABLE ".toList ++ t.toList ++ " ADD ".toList ++ c.toList ++
      ";".toList :=
  toList_five _ _ _ _ _

theorem rawText_createPieces (ht : IsTableName d t name) (hes : ∀ e ∈ es, IsElement d e) :
    rawText (createPieces (tableNamePieces d t) (es.map (elementPieces d)) ++ [signPiece ';' .semicolon]) =
      (createText t es).toList := by
  have hname : rawText (tableNamePieces d t) = t.toList := ht.ended.rawText_pieces
  have hbody : rawText (bodyPieces (es.map (elementPieces d))) = (", ".intercalate es).toList := by
    have hmap : (es.map (elementPieces d)).map rawText = es.map String.toList := by
      rw [List.map_map]
      exact List.map_congr_left fun e he => (hes e he).ended.rawText_pieces
    rw [bodyPieces, rawText_intercalate, hmap, String.toList_intercalate]
    rfl
  rw [createPieces, openPieces, List.append_assoc (_ ++ bodyPieces _), toList_createText]
  simp only [rawText_append, hbody, hname]
  rfl

theorem rawText_addPieces (ht : IsTableName d t name) (hc : IsElement d c) :
    rawText (addPieces (tableNamePieces d t) (elementPieces d c) ++ [signPiece ';' .semicolon]) =
      (addText t c).toList := by
  have hname : rawText (tableNamePieces d t) = t.toList := ht.ended.rawText_pieces
  have helement : rawText (elementPieces d c) = c.toList := hc.ended.rawText_pieces
  rw [addPieces, toList_addText]
  simp only [rawText_append, hname, helement]
  rfl

theorem IsTableName.lexemes (h : IsTableName d t name) : Lexemes d (tableNamePieces d t) (some ' ') :=
  h.ended.lexemes

theorem IsElement.endsAtSigns (h : IsElement d c) : EndsAtSigns d (elementPieces d c) :=
  endsAtSigns_of_lexemes rfl h.ended.lexemes

theorem endsAtSigns_elements (hes : ∀ e ∈ es, IsElement d e) :
    ∀ row ∈ es.map (elementPieces d), EndsAtSigns d row := by
  intro row hrow
  obtain ⟨e, he, rfl⟩ := List.mem_map.1 hrow
  exact (hes e he).endsAtSigns

theorem enclosed_elements (hes : ∀ e ∈ es, IsElement d e) :
    ∀ row ∈ es.map (elementPieces d), Enclosed (tokensIn 0 row) := by
  intro row hrow
  obtain ⟨e, he, rfl⟩ := List.mem_map.1 hrow
  exact (hes e he).enclosed

theorem scan_createText (ht : IsTableName d t name) (hes : ∀ e ∈ es, IsElement d e) :
    scan d (createText t es).toList =
      (createPieces (tableNamePieces d t) (es.map (elementPieces d)) ++ [signPiece ';' .semicolon],
        []) := by
  rw [← rawText_createPieces ht hes]
  exact scan_rawText (isSelfContained_createPieces ht.lexemes (endsAtSigns_elements hes) none)

theorem scan_addText (ht : IsTableName d t name) (hes : ∀ e ∈ es, IsElement d e) (hc : IsElement d c) :
    scan d (createText t es ++ " " ++ addText t c).toList =
      (createPieces (tableNamePieces d t) (es.map (elementPieces d)) ++
        signPiece ';' .semicolon :: blankPiece ' ' ::
          (addPieces (tableNamePieces d t) (elementPieces d c) ++ [signPiece ';' .semicolon]), []) := by
  have hcreate := isSelfContained_createPieces ht.lexemes (endsAtSigns_elements hes)
  have hadd := (isSelfContained_space d).append
    (isSelfContained_addPieces ht.lexemes hc.endsAtSigns)
  have htext : (createText t es ++ " " ++ addText t c).toList =
      rawText (createPieces (tableNamePieces d t) (es.map (elementPieces d)) ++
        [signPiece ';' .semicolon] ++ ([blankPiece ' '] ++
          (addPieces (tableNamePieces d t) (elementPieces d c) ++ [signPiece ';' .semicolon]))) := by
    rw [rawText_append (createPieces _ _ ++ _), rawText_append [blankPiece ' '],
      rawText_createPieces ht hes, rawText_addPieces ht hc, String.toList_append, String.toList_append,
      List.append_assoc]
    rfl
  rw [htext, scan_rawText (hcreate.append hadd none)]
  simp

end Texts

section Statements

variable {d : Dialect} {t c name : String} {es : List String}

private theorem readStatements_empty : readStatements (String.ofList (rawText [])) (tokensOf 0 []) = [] := by
  simp [readStatements, tokensOf, splitStatements, readStatement?_nil]

theorem readStatements_createText (ht : IsTableName d t name) (hes : ∀ e ∈ es, IsElement d e) :
    readStatements (createText t es) (tokensOf 0 (scan d (createText t es).toList).1) =
      [.create ⟨name, (es.map (elementPieces d)).filterMap elementOf?⟩] := by
  have hrows := enclosed_elements hes
  have hread := readStatements_semicolon (endsStatement_createPieces ht.named hrows) []
  rw [rawText_createPieces ht hes, String.ofList_toList, readStatement?_createPieces ht.named hrows,
    readStatements_empty] at hread
  rw [scan_createText ht hes]
  exact hread

theorem readStatements_addText (ht : IsTableName d t name) (hes : ∀ e ∈ es, IsElement d e)
    (hc : IsElement d c) (hkey : opensKey (tokensIn 0 (elementPieces d c))) :
    readStatements (createText t es ++ " " ++ addText t c)
        (tokensOf 0 (scan d (createText t es ++ " " ++ addText t c).toList).1) =
      [.create ⟨name, (es.map (elementPieces d)).filterMap elementOf?⟩,
        .alter ⟨name, ((elementOf? (elementPieces d c)).bind TableElement.addClause?).toList⟩] := by
  have hrows := enclosed_elements hes
  have hscan := scan_addText ht hes hc
  have htext := rawText_scan d (createText t es ++ " " ++ addText t c).toList
  rw [hscan, List.append_nil] at htext
  have hfirst := readStatements_semicolon (endsStatement_createPieces ht.named hrows)
    (blankPiece ' ' :: (addPieces (tableNamePieces d t) (elementPieces d c) ++
      [signPiece ';' .semicolon]))
  rw [htext, String.ofList_toList, readStatement?_createPieces ht.named hrows] at hfirst
  have htokens :
      tokensIn 0 (blankPiece ' ' :: addPieces (tableNamePieces d t) (elementPieces d c)) =
        tokensIn (0 + (blankPiece ' ').size) (addPieces (tableNamePieces d t) (elementPieces d c)) := rfl
  have hends := endsStatement_addPieces ht.named hc.enclosed (0 + (blankPiece ' ').size)
  rw [← htokens] at hends
  have hsecond := readStatements_semicolon hends []
  rw [htokens, readStatement?_addPieces _ ht.named hc.enclosed hkey, readStatements_empty] at hsecond
  rw [hscan, hfirst]
  exact congrArg (_ :: ·) hsecond

end Statements

section Normalization

open Text

variable {front mid back : List Char}

private theorem packChars_parts (hfront : isInline front) (hmid : isInline mid) (hback : isInline back)
    (xs ys : List Char) : packChars (front ++ xs ++ mid ++ ys ++ back) =
      front ++ packChars xs ++ mid ++ packChars ys ++ back := by
  have hxs : packChars (front ++ xs) = front ++ packChars xs := packChars_append hfront [] xs
  rw [packChars_concat hback, packChars_append hmid, hxs]

private theorem toList_packed (s : String) : (packed s).toList = packChars s.toList := by
  rw [packed, String.toList_ofList]

private theorem packChars_createText (t : String) (es : List String) :
    packChars (createText t es).toList = (createText (packed t) (es.map packed)).toList := by
  have hlist : (", ".intercalate (es.map packed)).toList = packChars (", ".intercalate es).toList := by
    have hsep : isInline ", ".toList := by decide
    simp only [String.toList_intercalate, List.map_map]
    rw [packChars_intercalate hsep, List.map_map]
    congr 1
    apply List.map_congr_left
    intro e _
    exact toList_packed e
  rw [toList_createText, toList_createText, packChars_parts (by decide) (by decide) (by decide), hlist,
    toList_packed]

private theorem packChars_addText (t c : String) :
    packChars (' ' :: (addText t c).toList) = ' ' :: (addText (packed t) (packed c)).toList := by
  have hparts := @packChars_parts (' ' :: "ALTER TABLE ".toList) " ADD ".toList ";".toList (by decide)
    (by decide) (by decide) t.toList c.toList
  rw [toList_addText, toList_addText, toList_packed, toList_packed]
  exact hparts

private theorem ends_parts {x y : Char} (hx : front.head? = some x) (hy : back.getLast? = some y)
    (xs ys : List Char) : (front ++ xs ++ mid ++ ys ++ back).head? = some x ∧
      (front ++ xs ++ mid ++ ys ++ back).getLast? = some y := by
  simp [List.getLast?_append, hx, hy]

private theorem ends_createText (t : String) (es : List String) :
    (createText t es).toList.head? = some 'C' ∧ (createText t es).toList.getLast? = some ';' := by
  rw [toList_createText]
  exact ends_parts rfl rfl _ _

theorem normalize_createText (t : String) (es : List String) :
    Text.normalize (createText t es) = createText (packed t) (es.map packed) := by
  obtain ⟨hfirst, hlast⟩ := ends_createText t es
  rw [Text.normalize, normalizeChars_eq_packChars (by rw [hfirst]; rfl) (by rw [hlast]; rfl),
    packChars_createText, String.ofList_toList]

theorem normalize_addText (t c : String) (es : List String) :
    Text.normalize (createText t es ++ " " ++ addText t c) =
      createText (packed t) (es.map packed) ++ " " ++ addText (packed t) (packed c) := by
  have htext (a b : String) : (a ++ " " ++ b).toList = a.toList ++ ' ' :: b.toList := by
    simp [String.toList_append]
  have hadd : (addText t c).toList.getLast? = some ';' := by
    rw [toList_addText]
    exact (ends_parts (show "ALTER TABLE ".toList.head? = some 'A' from rfl) rfl _ _).2
  obtain ⟨hfirst, hlast⟩ := ends_createText t es
  have hends : ((createText t es).toList ++ ' ' :: (addText t c).toList).head? = some 'C' ∧
      ((createText t es).toList ++ ' ' :: (addText t c).toList).getLast? = some ';' := by
    simp [List.getLast?_append, List.getLast?_cons, hfirst, hadd]
  rw [Text.normalize, htext, normalizeChars_eq_packChars (by rw [hends.1]; rfl) (by rw [hends.2]; rfl),
    packChars_append_of_getLast? (by rw [hlast]; rfl), packChars_createText, packChars_addText, ← htext,
    String.ofList_toList]

end Normalization

section Dialects

theorem toList_lower (s : String) : (Text.lower s).toList = s.toList.map Char.toLower := by
  rw [Text.lower, String.toList_ofList]

/-- The characters of a text in small letters. -/
def smallLetters (text : String) : List Char := text.toList.map Char.toLower

variable (t c : String) (es : List String)

/-- The front of a table up to the end of its last element, in small letters. -/
def smallFront : List Char :=
  "create".toList ++ (" table ".toList ++ smallLetters t ++ [' ']) ++
    '(' :: smallLetters (", ".intercalate es)

private theorem smallFront_eq :
    smallFront t es = "create".toList ++ (" table ".toList ++ smallLetters t ++ [' ']) ++
      '(' :: smallLetters (", ".intercalate es) :=
  rfl

private theorem smallLetters_createText :
    smallLetters (createText t es) = smallFront t es ++ [')', ';'] := by
  rw [smallLetters, toList_createText, smallFront_eq]
  simp only [List.map_append, List.append_assoc]
  rfl

private theorem smallLetters_append (a b c : String) :
    smallLetters (a ++ b ++ c) = smallLetters a ++ smallLetters b ++ smallLetters c := by
  simp only [smallLetters, String.toList_append, List.map_append]

private theorem smallLetters_addText :
    smallLetters (createText t es ++ " " ++ addText t c) =
      smallFront t es ++ [')', ';'] ++ (" alter table ".toList ++ smallLetters t ++ " add ".toList ++
        smallLetters c ++ [';']) := by
  have hadd : smallLetters (addText t c) = "alter table ".toList ++ smallLetters t ++ " add ".toList ++
      smallLetters c ++ [';'] := by
    have htext := congrArg (List.map Char.toLower) (toList_addText t c)
    simp only [List.map_append] at htext
    exact htext
  calc smallLetters (createText t es ++ " " ++ addText t c)
      = smallLetters (createText t es) ++ smallLetters " " ++ smallLetters (addText t c) :=
        smallLetters_append _ _ _
    _ = _ := by
      rw [smallLetters_createText, hadd]
      simp only [List.append_assoc]
      rfl

private theorem smallFront_singleton : smallFront t [c] = smallFront t [] ++ smallLetters c := by
  have hone : smallLetters (", ".intercalate [c]) = smallLetters c := by
    rw [smallLetters, String.toList_intercalate]
    exact congrArg (List.map Char.toLower) List.intercalate_singleton
  have hnone : smallLetters (", ".intercalate []) = [] := rfl
  simp only [smallFront_eq, hone, hnone, List.append_assoc, List.cons_append, List.nil_append]

private theorem smallFront_concat (hes : es ≠ []) :
    smallFront t (es ++ [c]) = smallFront t es ++ [',', ' '] ++ smallLetters c := by
  have hconcat : smallLetters (", ".intercalate (es ++ [c])) =
      smallLetters (", ".intercalate es) ++ ([',', ' '] ++ smallLetters c) := by
    rw [smallLetters, smallLetters, String.toList_intercalate, String.toList_intercalate, List.map_append,
      Text.intercalate_append _ (by simpa using hes) (by simp), List.map_append, List.map_append,
      List.append_assoc]
    exact congrArg _ (congrArg _ (congrArg (List.map Char.toLower) List.intercalate_singleton))
  rw [smallFront_eq, hconcat, smallFront_eq]
  simp only [List.append_assoc]
  rfl

/-- A script suggests the same dialect if its last element is added behind it. -/
theorem detect_addText :
    Dialect.detect (createText t es ++ " " ++ addText t c) = Dialect.detect (createText t (es ++ [c])) := by
  apply Dialect.detect_congr
  intro clue hclue p hp
  have h := Dialect.isDetached_of_mem_clues clue hclue p hp
  have hfront : " table ".toList ++ smallLetters t ++ [' '] <:+: smallFront t es :=
    List.infix_append _ _ _
  rw [toList_lower, toList_lower, ← smallLetters, ← smallLetters, smallLetters_addText,
    h.infix_added_iff hfront, smallLetters_createText]
  by_cases hes : es = []
  · subst hes
    have hparen : smallFront t [] = "create table ".toList ++ smallLetters t ++ [' ', '('] := by
      simp only [smallFront_eq, List.append_assoc]
      rfl
    rw [List.nil_append, smallFront_singleton, hparen, h.infix_only_iff]
  · rw [smallFront_concat t c es hes, h.infix_element_iff]

end Dialects

end SqlSchema
