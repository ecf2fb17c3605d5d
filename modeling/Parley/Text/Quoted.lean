import Parley.Unicode.Visible

/-!
# Quoted text

A text between double quotes, where a quote, a backslash and the common controls follow a
backslash, and characters without a visible form are written as their code points in braces.
-/
namespace Parley.Text

def quoteChar (c : Char) : List Char :=
  match c with
  | '\x00' => ['\\', '0']
  | '\t' => ['\\', 't']
  | '\r' => ['\\', 'r']
  | '\n' => ['\\', 'n']
  | '"' => ['\\', '"']
  | '\\' => ['\\', '\\']
  | c =>
    if Unicode.isVisible c then [c]
    else ['\\', 'u', '\x7b'] ++ Nat.toDigits 16 c.toNat ++ ['\x7d']

def quote (text : List Char) : List Char := '"' :: text.flatMap quoteChar ++ ['"']

end Parley.Text
