import PackageVitals.Text.Base64
import PackageVitals.Text.Digit
import PackageVitals.Text.Encoding
import PackageVitals.Text.Split

/-!
# Credentials

What stands before the host of an address are the name and the password of
a user, with a colon between them. They are sent in a header and not in the
address, so their percent escapes are resolved first. Escaped bytes that
are no text become replacement characters.
-/

namespace PackageVitals.Url

/-- The bytes of a text, with its percent escapes resolved. A percent sign
before anything but two hexadecimal digits stands for itself. -/
def unescapedBytes : List Char → List UInt8
  | [] => []
  | '%' :: a :: b :: rest =>
    match Text.hexDigit? a, Text.hexDigit? b with
    | some m, some n => UInt8.ofNat (16 * m + n) :: unescapedBytes rest
    | _, _ => 37 :: unescapedBytes (a :: b :: rest)
  | c :: rest => String.utf8EncodeChar c ++ unescapedBytes rest

/-- The text that percent escapes stand for. -/
def unescape (s : List Char) : List Char :=
  Text.decodeLossy (unescapedBytes s)

/-- **The name and the password** of a user as written in an address. -/
def credentials (user : List Char) : List Char × List Char :=
  let (name, password) := Text.splitFirst ':' user
  (unescape name, unescape (password.getD []))

/-- **The header that tells who the user is**, if there is a name or a
password. -/
def authorization? (user : List Char) : Option (String × String) :=
  let (name, password) := credentials user
  if name.isEmpty && password.isEmpty then none
  else
    let bytes := (name ++ ':' :: password).flatMap String.utf8EncodeChar
    some ("Authorization", "Basic " ++ String.ofList (Text.base64 bytes))

end PackageVitals.Url
