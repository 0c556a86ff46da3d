import TokenDealer.LoginCli
import TokenDealer.Percent

set_option autoImplicit true

namespace TokenDealer

/-- The characters that are never anything but themselves in an address. -/
def IsUnreservedChar (c : Char) : Prop :=
  ('A' ≤ c ∧ c ≤ 'Z') ∨ ('a' ≤ c ∧ c ≤ 'z') ∨ ('0' ≤ c ∧ c ≤ '9') ∨ c ∈ ['-', '_', '.', '~']

instance : DecidablePred IsUnreservedChar := fun _ => inferInstanceAs (Decidable (_ ∨ _))

theorem isUnreservedChar_of_byte {b : UInt8} (h : isUnreserved b = true) :
    IsUnreservedChar (Char.ofNat b.toNat) := by
  have hall : ∀ n < 256, isUnreserved (UInt8.ofNat n) = true → IsUnreservedChar (Char.ofNat n) := by
    decide +kernel
  apply hall b.toNat b.toNat_lt
  rwa [UInt8.ofNat_toNat]

/-- A text that stands for some bytes wherever it is put into a query or a form: nothing in it
separates or means anything else. -/
structure IsPercentEncoded (bytes : List UInt8) (text : List Char) : Prop where
  decodes : Percent.decode text = bytes
  formDecodes : Query.unescape text = bytes
  escaped : Percent.Escaped IsUnreservedChar text
  separators : ∀ c ∈ ['&', '=', '#', '+'], c ∉ text

theorem isPercentEncoded_bytes (bytes : List UInt8) :
    IsPercentEncoded bytes (bytes.flatMap urlencodeByte) := by
  have hescaped : Percent.Escaped IsUnreservedChar (bytes.flatMap urlencodeByte) :=
    Percent.escaped_escapeBytes unreservedBytes (fun _ => isUnreservedChar_of_byte) bytes
  refine ⟨Percent.decode_escapeBytes unreservedBytes bytes,
    unreservedBytes.unescape_escapeBytes bytes, hescaped, ?_⟩
  intro c hc
  simp only [List.mem_cons, List.not_mem_nil, or_false] at hc
  rcases hc with rfl | rfl | rfl | rfl <;>
    exact hescaped.not_mem (by decide) (by decide) (by decide)

theorem isPercentEncoded_urlencoding (s : String) :
    IsPercentEncoded (Utf8.encode s.toList) (urlencoding s).toList := by
  rw [urlencoding, String.toList_ofList]
  exact isPercentEncoded_bytes _

/-- The encoder of the logins: what it writes is read back, byte by byte and in whatever it is put
into, two texts are never written alike, and the server and the program for the terminal have the
same one. -/
theorem urlencoding_percent :
    (∀ bytes, IsPercentEncoded bytes (bytes.flatMap urlencodeByte)) ∧
    (∀ s, IsPercentEncoded (Utf8.encode s.toList) (urlencoding s).toList) ∧
    Function.Injective urlencoding ∧
    (∀ a b, urlencoding (a ++ b) = urlencoding a ++ urlencoding b) ∧
    urlencodingSimple = urlencoding ∧ LoginCli.urlenc = urlencoding := by
  refine ⟨isPercentEncoded_bytes, isPercentEncoded_urlencoding, ?_, ?_, ?_, ?_⟩
  · exact Percent.escape_injective unreservedBytes
  · exact Percent.escape_append unreservedBytes
  · funext s
    rw [urlencodingSimple, urlencoding]
  · funext s
    rw [LoginCli.urlenc, urlencoding]

end TokenDealer
