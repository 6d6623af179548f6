import Checkup.Digest.Sha256
import Checkup.Duplication.Key

/-!
# Fingerprints

The fingerprint of a text is the digest of its comparison key, so texts with one key have one fingerprint.
-/

namespace Checkup.Duplication

/-- The digest of a comparison key. -/
abbrev Fingerprint := Digest.Sha256

/-- The fingerprint of a text under a quote style. -/
def fingerprint (style : QuoteStyle) (cs : List Char) : Fingerprint :=
  Digest.Sha256.digest (String.ofList (key style cs)).toUTF8

theorem fingerprint_eq_of_key_eq {style style' : QuoteStyle} {cs ds : List Char}
    (h : key style cs = key style' ds) : fingerprint style cs = fingerprint style' ds := by
  simp [fingerprint, h]

end Checkup.Duplication
