import Facets.Html.Escape
import Facets.Html.Reference
import Facets.Param
import Facets.Query

/-!
# Links to the browse page

`Link.build` makes a link from the arguments of a wiki function.  The link leads to the page of a
category under a base URL, with a query that narrows the page down:

* `category` or `cat`         the category,
* `subcategory` or `subcat`   the value of `_subcat` in the query,
* `link text`                 the text of the link, by default the category,
* `tooltip`                   its title, in which character references are decoded,
* `filters`                   pairs of the query, in which `&` may be written `&amp;`,
* the value `single`          the key `_single` in the query.

Of arguments with one meaning the last one counts, and pairs of the query are merged in order.
All other arguments are passed over.
-/

namespace Facets

/-- What a named argument of a link means. -/
inductive LinkParam where
  | category
  | subcategory
  | linkText
  | tooltip
  | filters
deriving DecidableEq

/-- The names of arguments with their meanings. -/
def LinkParam.names : List (Text × LinkParam) :=
  [("category".toList, .category), ("cat".toList, .category),
    ("subcategory".toList, .subcategory), ("subcat".toList, .subcategory),
    ("link text".toList, .linkText), ("tooltip".toList, .tooltip), ("filters".toList, .filters)]

/-- The meaning of a name. -/
def LinkParam.ofName? (name : Text) : Option LinkParam := names.lookup name

/-! ## URLs -/

namespace Url

/-- A text as it stands in a path: spaces become underscores. -/
def pathSegment (t : Text) : Text := t.map fun c => if c = ' ' then '_' else c

/-- A URL with a query; it goes on a query that the URL has. -/
def appendQuery (url query : Text) : Text :=
  if query = [] then url
  else url ++ (if '?' ∈ url then '&' else '?') :: query

end Url

/-! ## Links -/

/-- A link to the browse page of a category. -/
structure Link where
  category : Text
  query : Query
  text : Text
  tooltip : Option Text
deriving DecidableEq

/-- A link as it stands in a page. -/
structure Anchor where
  href : Text
  title : Option Text
  text : Text
deriving DecidableEq

namespace Link

/-- The link without any arguments. -/
def empty : Link := ⟨[], .empty, [], none⟩

instance : Inhabited Link := ⟨empty⟩

/-- The key of the subcategory in a query. -/
def subcategoryKey : Text := "_subcat".toList

/-- The key in a query that asks for a single category. -/
def singleKey : Text := "_single".toList

/-- The value that asks for a single category. -/
def singleFlag : Text := "single".toList

/-- A text with `&` for each `&amp;`. -/
def unescapeAmpersands : Text → Text
  | '&' :: 'a' :: 'm' :: 'p' :: ';' :: cs => '&' :: unescapeAmpersands cs
  | c :: cs => c :: unescapeAmpersands cs
  | [] => []

/-- A link while its arguments are read. -/
structure Draft where
  category : Text := []
  query : Query := .empty
  text : Option Text := none
  tooltip : Option Text := none

/-- A draft after one more argument. -/
def Draft.add (d : Draft) (p : Param) : Draft :=
  match p.name with
  | none => if p.value = singleFlag then { d with query := d.query.insert singleKey [] } else d
  | some name =>
    match LinkParam.ofName? name with
    | some .category => { d with category := p.value }
    | some .subcategory =>
      { d with query := d.query.merge (.ofFragment (subcategoryKey ++ '=' :: p.value)) }
    | some .linkText => { d with text := some p.value }
    | some .tooltip => { d with tooltip := some (Html.decode p.value) }
    | some .filters =>
      { d with query := d.query.merge (.ofFragment (unescapeAmpersands p.value)) }
    | none => d

/-- The link that a draft has come to; an empty text or tooltip is none. -/
def Draft.link (d : Draft) : Link where
  category := d.category
  query := d.query
  text := (d.text.filter (· ≠ [])).getD d.category
  tooltip := d.tooltip.filter (· ≠ [])

/-- The link that some arguments describe. -/
def build (params : List Param) : Link := (params.foldl Draft.add {}).link

/-- The query of a link as it stands in its URL. -/
def queryString (l : Link) : Text := l.query.encode

/-- The URL of a link under a base URL. -/
def href (l : Link) (base : Text) : Text :=
  Url.appendQuery (Url.pathSegment (base ++ '/' :: l.category)) l.queryString

/-- A link as it stands in a page under a base URL. -/
def anchor (l : Link) (base : Text) : Anchor := ⟨l.href base, l.tooltip, l.text⟩

/-- The members of a link as a JSON object. -/
def jsonFields (l : Link) : List (Text × Json) :=
  [("category".toList, .text l.category), ("query_params".toList, l.query.toJson),
    ("link_text".toList, .text l.text)] ++ Json.optionalField "tooltip" l.tooltip

/-- A link as a JSON object. -/
def toJson (l : Link) : Json := .fields l.jsonFields

end Link

namespace Anchor

/-- The title of an anchor as an attribute, with a space before it. -/
def titleAttribute : Option Text → Text
  | some title => " title=\"".toList ++ Html.escapeAttribute title ++ ['"']
  | none => []

/-- An anchor as an HTML element. -/
def html (a : Anchor) : Text :=
  "<a href=\"".toList ++ Html.escapeAttribute a.href ++ ['"'] ++ titleAttribute a.title ++ ['>'] ++
    Html.escapeText a.text ++ "</a>".toList

/-- An anchor as a JSON object. -/
def toJson (a : Anchor) : Json :=
  .fields ([("href".toList, .text a.href)] ++ Json.optionalField "title" a.title ++
    [("text".toList, .text a.text)])

end Anchor

end Facets
