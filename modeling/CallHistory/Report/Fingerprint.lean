import CallHistory.Digest.Sha1
import CallHistory.Text.Hex
import CallHistory.Text.Search

/-! # Fingerprints

A phone number is personal data. Reports show a fingerprint of it, by which lines about one number
can still be told from lines about another, unless clear text has been asked for.
-/

namespace CallHistory.Report

/-- The first eight hexadecimal digits of the digest of a text. -/
def fingerprint (s : String) : String :=
  let word := (Digest.Sha1.digest s.toUTF8.toList).headD 0
  .ofList (Text.padLeft '0' 8 (Text.Hex.digits word.toNat))

def shown (reveal : Bool) : Option String → String
  | none => "null"
  | some number => if reveal then number else "[" ++ fingerprint number ++ "]"

end CallHistory.Report
