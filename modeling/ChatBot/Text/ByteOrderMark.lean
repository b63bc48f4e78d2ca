-- The mark of the byte order, which may stand in front of a text without being
-- part of it.

namespace ChatBot.Text

/-- A text without the mark in front. -/
def withoutByteOrderMark : List Char → List Char
  | '\ufeff' :: rest => rest
  | cs => cs

end ChatBot.Text
