import VZstd.Lib.Proc
import Mathlib.Tactic.NormNum

/-!
# Result codes and errors

A `size_t` result of zstd is a `UInt64`; the values above `-120` are error codes. `checkError`
turns such a value into a V error. V's `int` is 32-bit two's complement.
-/

namespace VZstd

/-- Conversion to, and wrap-around of, a V `int`. -/
@[irreducible] def i32 (x : Int) : Int := x.bmod (2 ^ 32)

lemma i32_of_inRange {x : Int} (h : -2147483648 ≤ x ∧ x < 2147483648) : i32 x = x := by
  rw [i32, Int.bmod_eq_of_le] <;> omega

lemma i32_lt (x : Int) : i32 x < 2 ^ 31 := by
  have h := Int.bmod_lt (x := x) (m := 2 ^ 32) (by decide)
  rw [i32]
  omega

/-- Between 2^31 and 2^32 a number becomes negative. -/
lemma i32_of_wraps {x : Int} (h : 2147483648 ≤ x ∧ x < 4294967296) : i32 x = x - 4294967296 := by
  rw [i32, Int.bmod_def]
  split <;> omega

/-- `ZSTD_error_maxCode`. -/
def errorMaxCode : UInt64 := 120

/-- `ERR_isError`: `code > (size_t)-ZSTD_error_maxCode`. -/
def isError (code : UInt64) : Bool := decide (0 - errorMaxCode < code)

/-- `ERR_getErrorCode`. -/
def getErrorCode (code : UInt64) : Nat :=
  if isError code then (0 - code).toNat else 0

/-- `ERR_getErrorString`. -/
def getErrorString : Nat → String
  | 0 => "No error detected"
  | 1 => "Error (generic)"
  | 10 => "Unknown frame descriptor"
  | 12 => "Version not supported"
  | 14 => "Unsupported frame parameter"
  | 16 => "Frame requires too much memory for decoding"
  | 20 => "Data corruption detected"
  | 22 => "Restored data doesn't match checksum"
  | 24 => "Header of Literals' block doesn't respect format specification"
  | 40 => "Unsupported parameter"
  | 41 => "Unsupported combination of parameters"
  | 42 => "Parameter is out of bound"
  | 62 => "Context should be init first"
  | 64 => "Allocation error : not enough memory"
  | 66 => "workSpace buffer is not large enough"
  | 60 => "Operation not authorized at current processing stage"
  | 44 => "tableLog requires too much memory : unsupported"
  | 46 => "Unsupported max Symbol Value : too large"
  | 48 => "Specified maxSymbolValue is too small"
  | 49 => "This mode cannot generate an uncompressed block"
  | 50 => "pledged buffer stability condition is not respected"
  | 30 => "Dictionary is corrupted"
  | 32 => "Dictionary mismatch"
  | 34 => "Cannot create Dictionary from provided samples"
  | 70 => "Destination buffer is too small"
  | 72 => "Src size is incorrect"
  | 74 => "Operation on NULL destination buffer"
  | 80 => "Operation made no progress over multiple calls, due to output buffer being full"
  | 82 => "Operation made no progress over multiple calls, due to input being empty"
  | 100 => "Frame index is too large"
  | 102 => "An I/O error occurred when reading/seeking"
  | 104 => "Destination buffer is wrong"
  | 105 => "Source buffer is wrong"
  | 106 => "Block-level external sequence producer returned an error code"
  | 107 => "External sequences are not valid"
  | _ => "Unspecified error code"

/-- `ZSTD_getErrorName`. -/
def getErrorName (code : UInt64) : String := getErrorString (getErrorCode code)

/-- An error of a drain callback: any `IError`. -/
structure DrainError where
  text : String
  code : Int
  deriving DecidableEq, Repr

/-- The errors an operation can return. -/
inductive VError where
  /-- built by `check_error` from a zstd result -/
  | zstd (name : String) (code : Int)
  /-- `error(text)` -/
  | message (text : String)
  /-- `ContentSizeUnknown{}` -/
  | contentSizeUnknown
  /-- raised by a drain callback, and passed on -/
  | drain (e : DrainError)
  deriving DecidableEq, Repr

/-- `IError.code()`. -/
def VError.code : VError → Int
  | .zstd _ code => code
  | .message _ => 0
  | .contentSizeUnknown => 0
  | .drain e => e.code

/-- `IError.msg()`. -/
def VError.msg : VError → String
  | .zstd name _ => name
  | .message text => text
  | .contentSizeUnknown => "content size unknown"
  | .drain e => e.text

/-- Built from a zstd result. -/
def VError.IsZstd : VError → Prop
  | .zstd _ _ => True
  | _ => False

/-- The ways an operation ends other than by returning. -/
inductive Stop where
  /-- it returned an error -/
  | raised (e : VError)
  /-- the program aborted, or wrote outside an allocated block -/
  | aborted
  /-- a loop was still running when the fuel ran out -/
  | running
  deriving DecidableEq, Repr

variable {σ : Type}

def checkError (res : UInt64) : EStateM Stop σ Unit :=
  if isError res then
    throw (.raised (.zstd (getErrorName res) (-i32 res.toNat)))
  else
    pure ()

lemma isError_iff (res : UInt64) : isError res = true ↔ 2 ^ 64 - 120 < res.toNat := by
  simp [isError, errorMaxCode, UInt64.lt_iff_toNat_lt, UInt64.size]

@[simp] lemma isError_zero : isError 0 = false := by decide

/-- The code of the error is the number that zstd negated. -/
lemma code_of_isError {res : UInt64} (h : isError res = true) :
    -i32 res.toNat = 2 ^ 64 - (res.toNat : Int) := by
  have hlo := (isError_iff res).mp h
  have hhi := res.toNat_lt
  have hwrap : i32 res.toNat = i32 ((res.toNat : Int) - 2 ^ 64) := by
    have h64 : (2 : Int) ^ 64 = 2 ^ 32 * (2 ^ 32 : Nat) := by norm_num
    rw [i32, i32, h64, Int.sub_mul_bmod_self_right]
  rw [hwrap, i32_of_inRange (by omega)]
  omega

lemma checkError_of_isError {res : UInt64} (h : isError res = true) (s : σ) :
    checkError res s = .error (.raised (.zstd (getErrorName res) (-i32 res.toNat))) s := by
  simp [checkError, h]

lemma checkError_of_not_isError {res : UInt64} (h : isError res = false) (s : σ) :
    checkError res s = .ok () s := by
  simp [checkError, h]

lemma lockstep_checkError {τ : Type} {R : σ → τ → Prop} (res : UInt64) :
    Proc.Lockstep R (checkError res) (checkError res) := by
  intro s t h
  by_cases herr : isError res = true
  · rw [checkError_of_isError herr, checkError_of_isError herr]
    exact ⟨rfl, h⟩
  · have hok : isError res = false := by simpa using herr
    rw [checkError_of_not_isError hok, checkError_of_not_isError hok]
    exact ⟨rfl, h⟩

end VZstd
