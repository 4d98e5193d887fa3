import TokenAuthority.Text.Hex
import TokenAuthority.Text.Hidden

/-!
# Quoted text

How a list of texts is named inside a message: each text between double quotes, with an escape for
whatever would not show, so that two different lists never look the same.
-/

namespace TokenAuthority.Text

def quoteChar (value : Char) : String :=
  if value = '"' then "\\\""
  else if value = '\\' then "\\\\"
  else if value = '\n' then "\\n"
  else if value = '\r' then "\\r"
  else if value = '\t' then "\\t"
  else if value.toNat = 0 then "\\0"
  else if isHidden value then "\\u\x7b" ++ hexDigits value.toNat ++ "\x7d"
  else value.toString

def quote (text : String) : String :=
  "\"" ++ String.join (text.toList.map quoteChar) ++ "\""

def quoteList (texts : List String) : String :=
  "[" ++ ", ".intercalate (texts.map quote) ++ "]"

example : quoteList ["a", "q\""] = "[\"a\", \"q\\\"\"]" := by decide +kernel

end TokenAuthority.Text
