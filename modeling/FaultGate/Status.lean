/-!
# HTTP status codes
-/

namespace FaultGate

/-- A status code: a number of three digits. -/
structure Status where
  code : Nat
  three_digits : 100 ≤ code ∧ code ≤ 999 := by decide
  deriving DecidableEq, Repr

namespace Status

/-- The status with the given number, if the number is one of three digits. -/
def ofNat? (code : Nat) : Option Status :=
  if h : 100 ≤ code ∧ code ≤ 999 then some ⟨code, h⟩ else none

def toUInt16 (s : Status) : UInt16 :=
  UInt16.ofNat s.code

def ok : Status := { code := 200 }
def badRequest : Status := { code := 400 }
def notFound : Status := { code := 404 }
def methodNotAllowed : Status := { code := 405 }
def payloadTooLarge : Status := { code := 413 }
def unsupportedMediaType : Status := { code := 415 }
def unprocessableContent : Status := { code := 422 }
def internalServerError : Status := { code := 500 }
def serviceUnavailable : Status := { code := 503 }

/-- Is the status one that reports success? -/
def isSuccess (s : Status) : Bool :=
  200 ≤ s.code && s.code ≤ 299

@[simp] theorem ofNat?_code (s : Status) : ofNat? s.code = some s := by
  simp [ofNat?, s.three_digits]

theorem ofNat?_eq_none_iff {n : Nat} : ofNat? n = none ↔ ¬(100 ≤ n ∧ n ≤ 999) := by
  simp only [ofNat?, dite_eq_right_iff, reduceCtorEq, imp_false]

@[simp] theorem toNat_toUInt16 (s : Status) : s.toUInt16.toNat = s.code := by
  have := s.three_digits
  simp only [toUInt16, UInt16.toNat_ofNat']
  omega

end Status

end FaultGate
