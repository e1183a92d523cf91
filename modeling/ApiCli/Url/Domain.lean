import ApiCli.Text.Normalize
import ApiCli.Text.Split
import ApiCli.Text.Utf8
import ApiCli.Url.Domain.Direction
import ApiCli.Url.Domain.Label
import ApiCli.Url.Domain.Mapping

/-! # Domain names

`toAscii?` gives the form in which a domain name is looked up: its characters are replaced by the
ones they stand for, the text is brought into normal form, and labels beyond ASCII are written in
Punycode behind `xn--`. A name with a character that cannot stand in a host is no domain name, and
neither is one with a faulty label. -/

namespace ApiCli.Domain

/-- The domain name of a sequence of octets, in ASCII. -/
def toAscii? (bytes : List UInt8) : Option (List Char) := do
  let text ← Utf8.decode? bytes
  let text := Text.normalize (← map? text)
  if text.any isForbidden then none
  let labels ← (Text.splitChars '.' text).mapM Label.ofText?
  let meanings := labels.map Label.meaning
  if meanings.any (·.any runsLeft) && !meanings.all hasDirection then none
  return ['.'].intercalate (labels.map Label.ascii)

end ApiCli.Domain
