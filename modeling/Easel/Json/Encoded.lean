import Easel.Json.Reader
import Easel.Text.Encoding

/-!
JSON that came as bytes: the bytes must be those of a text, and the text a document.
-/

namespace Easel.Json

inductive EncodedError
  | bytes (fault : Text.DecodeFault)
  | document (error : ReadError)
  deriving Repr, DecidableEq

def EncodedError.message : EncodedError → String
  | .bytes fault => fault.message
  | .document error => error.message

/-- Reads the bytes of `text` as a document. -/
def readEncoded (text : String) : Except EncodedError Json :=
  match Text.decoded text with
  | .error fault => .error (.bytes fault)
  | .ok text => (readDecoded text).mapError .document

end Easel.Json
