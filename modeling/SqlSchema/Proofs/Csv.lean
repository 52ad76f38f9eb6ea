import Mathlib.Data.List.Forall2
import SqlSchema.Quote
/-!
# Comma separated values

A reader of comma separated values after RFC 4180, but with line feeds behind the records. Between double
quotes every character belongs to the cell, and a quote is written twice there.
-/
namespace SqlSchema.Csv

/-- Where a reader stands in a cell. -/
inductive Place
  | start
  | bare
  | quoted
  /-- Behind a quote between the quotes, which ends the cell or is the first of two. -/
  | quote
deriving DecidableEq, Repr

/-- What has been read so far: records, cells of the next record, and characters of the next cell. -/
structure Reader where
  records : List (List String)
  cells : List String
  text : List Char
  place : Place
deriving DecidableEq, Repr

namespace Reader

/-- A reader in front of a cell. -/
def front (records : List (List String)) (cells : List String) : Reader := ⟨records, cells, [], .start⟩

def endCell (r : Reader) : Reader := front r.records (r.cells ++ [String.ofList r.text])

def endRecord (r : Reader) : Reader := front (r.records ++ [r.endCell.cells]) []

def add (r : Reader) (c : Char) (place : Place) : Reader := { r with text := r.text ++ [c], place := place }

/-- The sign that ends a cell. -/
def delimit? (r : Reader) (c : Char) : Option Reader :=
  if c = ',' then some r.endCell else if c = '\n' then some r.endRecord else none

/-- Reads one character. A quote belongs to no cell that does not start with one, and nothing but a sign
that ends the cell stands behind the closing one. -/
def step? (r : Reader) (c : Char) : Option Reader :=
  match r.place with
  | .start => if c = '"' then some { r with place := .quoted } else (r.delimit? c).or (some (r.add c .bare))
  | .bare => if c = '"' then none else (r.delimit? c).or (some (r.add c .bare))
  | .quoted => if c = '"' then some { r with place := .quote } else some (r.add c .quoted)
  | .quote => if c = '"' then some (r.add c .quoted) else r.delimit? c

/-- Reads the rest of a text, which ends behind a record. -/
def read? (r : Reader) : List Char → Option (List (List String))
  | [] => if r = front r.records [] then some r.records else none
  | c :: cs => (r.step? c).bind fun next => next.read? cs

end Reader

/-- The records of a text. -/
def read? (text : String) : Option (List (List String)) := (Reader.front [] []).read? text.toList

/-- A cell that is written this way is read as this value, whichever sign ends it. -/
def IsCell (written value : String) : Prop :=
  ∀ records cells rest,
    (Reader.front records cells).read? (written.toList ++ ',' :: rest) =
        (Reader.front records (cells ++ [value])).read? rest ∧
      (Reader.front records cells).read? (written.toList ++ '\n' :: rest) =
        (Reader.front (records ++ [cells ++ [value]]) []).read? rest

namespace Reader

theorem read?_quoted (records : List (List String)) (cells : List String) (front text rest : List Char) :
    (Reader.mk records cells front .quoted).read? (QuoteStyle.doubled '"' text ++ rest) =
      (Reader.mk records cells (front ++ text) .quoted).read? rest := by
  induction text generalizing front with
  | nil => simp [QuoteStyle.doubled]
  | cons c text ih =>
    rw [QuoteStyle.doubled, List.flatMap_cons, ← QuoteStyle.doubled, List.append_assoc]
    by_cases hc : c = '"'
    · subst hc
      simp [read?, step?, add, ih]
    · simp [read?, step?, add, hc, ih]

theorem read?_bare (records : List (List String)) (cells : List String) (front : List Char)
    {text : List Char} (h : ∀ c ∈ text, c ∉ ['"', ',', '\n']) (rest : List Char) :
    (Reader.mk records cells front .bare).read? (text ++ rest) =
      (Reader.mk records cells (front ++ text) .bare).read? rest := by
  induction text generalizing front with
  | nil => simp
  | cons c text ih =>
    have hc := h c List.mem_cons_self
    have htext : ∀ x ∈ text, x ∉ ['"', ',', '\n'] := fun x hx => h x (List.mem_cons_of_mem c hx)
    simp only [List.mem_cons, List.not_mem_nil, or_false, not_or] at hc
    simp [read?, step?, delimit?, add, hc, ih _ htext]

end Reader

open Reader

theorem isCell_quoted (text : String) :
    IsCell ("\"" ++ String.ofList (QuoteStyle.doubled '"' text.toList) ++ "\"") text := by
  intro records cells rest
  have key : ∀ more, (Reader.front records cells).read?
      (("\"" ++ String.ofList (QuoteStyle.doubled '"' text.toList) ++ "\"").toList ++ more) =
        (Reader.mk records cells text.toList .quote).read? more := by
    intro more
    have hquoted := read?_quoted records cells [] text.toList ('"' :: more)
    simpa [String.toList_append, Reader.read?, step?, Reader.front] using hquoted
  rw [key, key]
  simp [Reader.read?, step?, delimit?, endCell, endRecord, Reader.front]

theorem isCell_bare {text : String} (h : ∀ c ∈ text.toList, c ∉ ['"', ',', '\n']) : IsCell text text := by
  intro records cells rest
  cases hchars : text.toList with
  | nil =>
    obtain rfl : text = "" := String.toList_eq_nil_iff.1 hchars
    simp [Reader.read?, step?, delimit?, endCell, endRecord, Reader.front]
  | cons c cs =>
    have hc := h c (by simp [hchars])
    have hcs : ∀ x ∈ cs, x ∉ ['"', ',', '\n'] := fun x hx => h x (by simp [hchars, hx])
    have hvalue : String.ofList (c :: cs) = text := by rw [← hchars, String.ofList_toList]
    simp only [List.mem_cons, List.not_mem_nil, or_false, not_or] at hc
    have key : ∀ more, (Reader.front records cells).read? (c :: cs ++ more) =
        (Reader.mk records cells (c :: cs) .bare).read? more := by
      intro more
      have hbare := read?_bare records cells [c] hcs more
      simpa [Reader.read?, step?, delimit?, add, Reader.front, hc] using hbare
    rw [key, key]
    simp [Reader.read?, step?, delimit?, endCell, endRecord, Reader.front, hvalue]

/-- A line of cells is read as one record. -/
theorem read?_line (records : List (List String)) (cells : List String) {ws vs : List String}
    (hne : ws ≠ []) (h : List.Forall₂ IsCell ws vs) (rest : List Char) :
    (Reader.front records cells).read? ((",".intercalate ws ++ "\n").toList ++ rest) =
      (Reader.front (records ++ [cells ++ vs]) []).read? rest := by
  induction h generalizing cells with
  | nil => exact absurd rfl hne
  | @cons w v ws vs hcell hcells ih =>
    cases hcells with
    | nil => simpa [String.toList_append] using (hcell records cells rest).2
    | @cons x y ws vs hx hrest =>
      have hfirst := (hcell records cells ((",".intercalate (x :: ws) ++ "\n").toList ++ rest)).1
      have hmore := ih (cells ++ [v]) (by simp)
      rw [hmore, List.append_assoc, List.singleton_append] at hfirst
      rw [← hfirst]
      simp [String.toList_append, String.toList_intercalate]

example : read? "a,\"b,\"\"\n\"\n\n,\n" = some [["a", "b,\"\n"], [""], ["", ""]] ∧
    read? "a\"b\"\n" = none ∧ read? "\"a\"b\n" = none ∧ read? "\"a\n" = none ∧ read? "a" = none := by
  decide

end SqlSchema.Csv
