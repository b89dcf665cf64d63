import EditorLaunch.Outbound.Client
import EditorLaunch.Proofs.Text.Base64.Forms
import EditorLaunch.StorageToken

/-!
# The shape of minted tokens

A minted token has three segments between points.  The first two do not depend on the
secret, and the third one is the signature.  All of them are written in base 64, so that
every minted token can stand in a header.
-/

namespace EditorLaunch

namespace Base64

theorem point_not_mem_text (octets : List UInt8) : '.' ∉ (text octets).toList := by
  intro member
  obtain ⟨bits, small, isPoint⟩ := exists_symbolOf_of_mem_text member
  revert bits
  decide

theorem isHeaderValue_text (octets : List UInt8) :
    Outbound.isHeaderValue (text octets) = true := by
  rw [Outbound.isHeaderValue, List.all_eq_true]
  intro letter member
  obtain ⟨bits, small, rfl⟩ := exists_symbolOf_of_mem_text member
  clear member
  revert bits
  decide

end Base64

namespace StorageToken

/-- What stands between the points of a token. -/
def segments (token : String) : List (List Char) :=
  token.toList.splitOn '.'

theorem segments_sign (secret : String) (claims : TokenClaims) :
    segments (sign secret claims) =
      [(segment header).toList, (segment claims.toJson).toList,
        (signature secret (signedPart claims)).toList] := by
  have joined : (sign secret claims).toList =
      List.intercalate ['.'] [(segment header).toList, (segment claims.toJson).toList,
        (signature secret (signedPart claims)).toList] := by
    simp [sign, signedPart, List.intercalate, List.intersperse]
  rw [segments, joined, List.splitOn_intercalate '.' ?_ (by simp)]
  simp only [List.mem_cons, List.not_mem_nil, or_false, forall_eq_or_imp, forall_eq]
  exact ⟨Base64.point_not_mem_text _, Base64.point_not_mem_text _, Base64.point_not_mem_text _⟩

theorem isHeaderValue_sign (secret : String) (claims : TokenClaims) :
    Outbound.isHeaderValue (sign secret claims) = true := by
  have point : Outbound.isHeaderValue "." = true := by decide
  have parts := fun octets => Base64.isHeaderValue_text octets
  simp only [Outbound.isHeaderValue] at point parts ⊢
  simp only [sign, signedPart, String.toList_append, List.all_append, point, segment,
    signature, parts, Bool.and_self]

end StorageToken

end EditorLaunch
