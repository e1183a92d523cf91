import ApiCli.Url.Parse

/-! # Query pairs

Pairs of a name and a value are added to a URL's query in the encoding of web forms: a blank is
written as a plus sign, letters, digits and `*-._` stay, and every other octet is
percent-encoded. -/

namespace ApiCli.Url

/-- How a character stands in a name or value. -/
def formChar (c : Char) : List Char :=
  if c = ' ' then ['+']
  else if c.isAlphanum || c = '*' || c = '-' || c = '.' || c = '_' then [c]
  else Percent.encodeChar c

def formText (s : String) : String := String.ofList (s.toList.flatMap formChar)

def formPair (p : String × String) : String := formText p.1 ++ "=" ++ formText p.2

/-- The URL with pairs added after its query, if there are any. -/
def addPairs (u : Url) (pairs : List (String × String)) : Url :=
  if pairs.isEmpty then u
  else
    let added := "&".intercalate (pairs.map formPair)
    match u.query with
    | none | some "" => { u with query := some added }
    | some query => { u with query := some (query ++ "&" ++ added) }

end ApiCli.Url
