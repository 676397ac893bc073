import TripleSlash.Text
import TripleSlash.Text.Unprintable

/-! Texts and lists of texts as they are quoted in messages: between double quotes, with
backslash escapes for what would end the quotation or would not be seen. -/
namespace TripleSlash.Text

def hexDigits (n : Nat) : Text := Nat.toDigits 16 n

/-- A character spelled out by its code point. -/
def hexEscape (c : Char) : Text := "\\u\x7b".toList ++ hexDigits c.toNat ++ "\x7d".toList

def quotedChar (c : Char) : Text :=
  match c with
  | '\x00' => ['\\', '0']
  | '\t' => ['\\', 't']
  | '\n' => ['\\', 'n']
  | '\r' => ['\\', 'r']
  | '"' => ['\\', '"']
  | '\\' => ['\\', '\\']
  | c => if isUnprintable c then hexEscape c else [c]

def quoted (t : Text) : Text := '"' :: t.flatMap quotedChar ++ ['"']

def quotedList (ts : List Text) : Text :=
  '[' :: ([',', ' '].intercalate (ts.map quoted)) ++ [']']

end TripleSlash.Text
