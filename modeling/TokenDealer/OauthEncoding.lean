import TokenDealer.AuthMiddleware
import TokenDealer.StrEdit

set_option autoImplicit true

namespace TokenDealer

/-- The bytes that stand for themselves in a query. -/
def isUnreserved (b : UInt8) : Bool :=
  (0x41 ≤ b && b ≤ 0x5A) || (0x61 ≤ b && b ≤ 0x7A) || (0x30 ≤ b && b ≤ 0x39) ||
    b = 0x2D || b = 0x5F || b = 0x2E || b = 0x7E

def urlencodeByte (b : UInt8) : List Char :=
  if isUnreserved b then [Char.ofNat b.toNat]
  else ['%', AuthMiddleware.hexUpper (b.toNat / 16), AuthMiddleware.hexUpper (b.toNat % 16)]

def urlencoding (s : String) : String :=
  String.ofList ((Utf8.encode s.toList).flatMap urlencodeByte)

example : urlencoding "a b&c~é" = "a%20b%26c~%C3%A9" := by decide +kernel

def base64UrlAlphabet : List Char :=
  "ABCDEFGHIJKLMNOPQRSTUVWXYZabcdefghijklmnopqrstuvwxyz0123456789-_".toList

def base64UrlDigit (n : UInt8) : Char := base64UrlAlphabet.getD n.toNat 'A'

/-- Three bytes become four characters, and a rest of one or two bytes is not padded. -/
def base64UrlList : List UInt8 → List Char
  | b0 :: b1 :: b2 :: rest =>
    base64UrlDigit (b0 >>> 2) :: base64UrlDigit (((b0 &&& 0b11) <<< 4) ||| (b1 >>> 4)) ::
      base64UrlDigit (((b1 &&& 0x0f) <<< 2) ||| (b2 >>> 6)) :: base64UrlDigit (b2 &&& 0x3f) ::
      base64UrlList rest
  | [b0, b1] =>
    [base64UrlDigit (b0 >>> 2), base64UrlDigit (((b0 &&& 0b11) <<< 4) ||| (b1 >>> 4)),
      base64UrlDigit ((b1 &&& 0x0f) <<< 2)]
  | [b0] => [base64UrlDigit (b0 >>> 2), base64UrlDigit ((b0 &&& 0b11) <<< 4)]
  | [] => []

def base64UrlEncode (bytes : List UInt8) : String := String.ofList (base64UrlList bytes)

example : base64UrlEncode [0x66, 0x6f, 0x6f, 0x62] = "Zm9vYg" := by decide

def pkceChallengeS256 (sha256 : List UInt8 → List UInt8) (verifier : String) : String :=
  base64UrlEncode (sha256 (Utf8.encode verifier.toList))

/-- The callback of a provider, from an origin, a template or the callback of another provider. -/
def rebuildRedirectUri (configured providerId : String) : String :=
  let callback := s!"/admin/oauth/{providerId}/callback"
  if configured = "" then callback
  else if Str.contains configured "\x7bprovider\x7d" then
    Str.replace configured "\x7bprovider\x7d" providerId
  else
    let rewritten := do
      if Str.contains configured "/admin/oauth/" then
        let (front, _) ← Str.rsplitOnce "/admin/oauth/" configured
        return front ++ callback
      else none
    match rewritten with
    | some uri => uri
    | none =>
      if Str.endsWith configured "/callback" || Str.endsWith configured "/" then
        Str.trimEndMatches "/" configured ++ callback
      else configured ++ callback

example : rebuildRedirectUri "http://h:1/admin/oauth/xai/callback" "openai" =
    "http://h:1/admin/oauth/openai/callback" := by decide +kernel

end TokenDealer
