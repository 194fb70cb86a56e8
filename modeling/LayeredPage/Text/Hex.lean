import LayeredPage.Json.Reader

/-!
# Bytes in hexadecimal
-/

namespace LayeredPage.Text

/-- Two digits for each byte. -/
def hexOf (bytes : ByteArray) : String :=
  String.ofList (bytes.toList.flatMap fun b =>
    [Json.hexDigit (b.toNat / 16), Json.hexDigit (b.toNat % 16)])

def hexBytes? : List Char → Option (List UInt8)
  | [] => some []
  | a :: b :: rest => do
    return UInt8.ofNat ((← Json.hexValue? a) * 16 + (← Json.hexValue? b)) :: (← hexBytes? rest)
  | _ => none

end LayeredPage.Text
