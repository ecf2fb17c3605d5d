import Parley.Unicode.WhiteSpace

/-!
# Cutting text into pieces

A text is a list of characters. Pieces are what lies between separators, so a text always has one
piece more than it has separators; words are the pieces between white space that are not empty,
and lines the pieces between line feeds, where a last empty piece is no line.
-/
namespace Parley.Text
open Parley.Unicode

def trimStart (text : List Char) : List Char := text.dropWhile isWhiteSpace

def trimEnd (text : List Char) : List Char := (text.reverse.dropWhile isWhiteSpace).reverse

/-- The text without white space at its ends. -/
def trim (text : List Char) : List Char := trimEnd (trimStart text)

/-- The text between separators, with empty pieces. -/
def pieces (separates : Char → Bool) : List Char → List (List Char)
  | [] => [[]]
  | c :: rest =>
    if separates c then [] :: pieces separates rest
    else
      match pieces separates rest with
      | [] => [[c]]
      | piece :: others => (c :: piece) :: others

@[simp] theorem pieces_ne_nil (separates : Char → Bool) (text : List Char) :
    pieces separates text ≠ [] := by
  cases text with
  | nil => simp [pieces]
  | cons c rest =>
    simp only [pieces]
    split
    · simp
    · split <;> simp

/-- Around a separator a text falls apart into the pieces of its two sides. -/
theorem pieces_append_cons (separates : Char → Bool) (left right : List Char) (c : Char)
    (h : separates c = true) :
    pieces separates (left ++ c :: right) = pieces separates left ++ pieces separates right := by
  induction left with
  | nil => simp [pieces, h]
  | cons d rest ih =>
    simp only [List.cons_append, pieces, ih]
    split
    · simp
    · cases hp : pieces separates rest with
      | nil => exact absurd hp (pieces_ne_nil separates rest)
      | cons piece others => simp

/-- The words of a text, which white space separates. -/
def words (text : List Char) : List (List Char) :=
  (pieces isWhiteSpace text).filter (!·.isEmpty)

/-- Drops the last piece if it is empty. -/
def dropLastEmpty : List (List Char) → List (List Char)
  | [] => []
  | [piece] => if piece.isEmpty then [] else [piece]
  | piece :: others => piece :: dropLastEmpty others

def lines (text : List Char) : List (List Char) := dropLastEmpty (pieces (· == '\n') text)

/-- The text before the first occurrence of `mark`, or all of it. -/
def before (mark : List Char) : List Char → List Char
  | [] => []
  | c :: rest => if mark.isPrefixOf (c :: rest) then [] else c :: before mark rest

def occurs (mark : List Char) : List Char → Bool
  | [] => mark.isEmpty
  | c :: rest => mark.isPrefixOf (c :: rest) || occurs mark rest

end Parley.Text
