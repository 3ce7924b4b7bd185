import Mathlib.Data.Int.Notation

set_option autoImplicit false

namespace VirtualCamera

structure YCbCrBuffer where
  y : Option Nat := none
  cb : Option Nat := none
  cr : Option Nat := none
  ystride : Int := 0
  cstride : Int := 0
  chromaStep : Int := 0
deriving DecidableEq, Repr

end VirtualCamera
