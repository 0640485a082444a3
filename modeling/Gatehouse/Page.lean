/-!
# Static pages

A page has a title and a description and is otherwise fixed. Characters that mean something
in HTML are written as entities (`Page.escape`), so neither text can end the place that it
stands in.
-/

namespace Gatehouse

/-- What a static page shows. -/
structure Page where
  title : String
  description : String
deriving Repr, DecidableEq

namespace Page

/-- The form of a character in HTML. -/
def escapeChar (c : Char) : List Char :=
  if c = '&' then "&amp;".toList
  else if c = '<' then "&lt;".toList
  else if c = '>' then "&gt;".toList
  else if c = '"' then "&quot;".toList
  else if c = '\x27' then "&#39;".toList
  else [c]

/-- The form of a text in HTML. -/
def escape (text : List Char) : List Char :=
  text.flatMap escapeChar

/-- The page up to the description. -/
def head : String :=
  "<!DOCTYPE html><html lang=\"en\"><head><meta charset=\"utf-8\">" ++
  "<meta name=\"viewport\" content=\"width=device-width, initial-scale=1\">" ++
  "<meta name=\"description\" content=\""

/-- What stands between the description and the title. -/
def titleOpen : String := "\"><title>"

/-- What stands between the title and the heading. -/
def bodyOpen : String := "</title></head>\n<body><div class=\"container\"><h4>"

/-- The page behind the heading. -/
def tail : String := "</h4></div></body></html>"

/-- The HTML text of a page. -/
def html (p : Page) : List Char :=
  head.toList ++ escape p.description.toList ++ titleOpen.toList ++ escape p.title.toList ++
    bodyOpen.toList ++ escape p.title.toList ++ tail.toList

end Page

end Gatehouse
