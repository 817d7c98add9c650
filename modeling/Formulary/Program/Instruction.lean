import Formulary.Error
import Formulary.Expr.Basic

/-!
# Program/Instruction — instructions of the stack machine

An instruction is one 64-bit word: eight bits for the operation and 28 bits for each of two operands.
`op_pack`, `a_pack` and `b_pack` say that operands within `maxOperand` come back as they were packed.
-/

namespace Formulary

/-- What an instruction does. -/
inductive OpCode where
  | pushConst
  | loadVar
  | neg
  | binary (op : BinaryOp)
  | compare (op : CompareOp)
  | call
deriving DecidableEq, Repr

namespace OpCode

/-- The number of an operation. -/
def code : OpCode → Nat
  | pushConst => 0
  | loadVar => 1
  | neg => 2
  | binary .add => 3
  | binary .sub => 4
  | binary .mul => 5
  | binary .div => 6
  | binary .mod => 7
  | binary .power => 8
  | compare .lt => 9
  | compare .le => 10
  | compare .gt => 11
  | compare .ge => 12
  | compare .eq => 13
  | compare .ne => 14
  | call => 15

/-- The operation of a number. Numbers from fifteen on all stand for a call. -/
def ofCode : Nat → OpCode
  | 0 => pushConst
  | 1 => loadVar
  | 2 => neg
  | 3 => binary .add
  | 4 => binary .sub
  | 5 => binary .mul
  | 6 => binary .div
  | 7 => binary .mod
  | 8 => binary .power
  | 9 => compare .lt
  | 10 => compare .le
  | 11 => compare .gt
  | 12 => compare .ge
  | 13 => compare .eq
  | 14 => compare .ne
  | _ => call

@[simp] theorem ofCode_code (op : OpCode) : ofCode op.code = op := by
  cases op with
  | binary op => cases op <;> rfl
  | compare op => cases op <;> rfl
  | _ => rfl

theorem code_lt (op : OpCode) : op.code < 16 := by
  cases op with
  | binary op => cases op <;> decide
  | compare op => cases op <;> decide
  | _ => decide

/-- The name of an operation. -/
def name : OpCode → String
  | pushConst => "PushConst"
  | loadVar => "LoadVar"
  | neg => "Neg"
  | binary .add => "Add"
  | binary .sub => "Sub"
  | binary .mul => "Mul"
  | binary .div => "Div"
  | binary .mod => "Mod"
  | binary .power => "Pow"
  | compare .lt => "Lt"
  | compare .le => "Le"
  | compare .gt => "Gt"
  | compare .ge => "Ge"
  | compare .eq => "Eq"
  | compare .ne => "Ne"
  | call => "CallFunc"

end OpCode

/-- How many values the 28 bits of an operand have. -/
def operandRange : Nat := 268435456

/-- The largest operand of an instruction. -/
def maxOperand : Nat := 268435455

/-- A position or count as an operand, if it is small enough. -/
def operand (n : Nat) : Except FormulaError Nat :=
  if n ≤ maxOperand then .ok n else .error (.programTooLarge maxOperand)

/-- An instruction as one word. -/
structure Instruction where
  word : UInt64
deriving DecidableEq

namespace Instruction

/-- Packs an operation with two operands. -/
def pack (op : OpCode) (a b : Nat) : Instruction :=
  ⟨UInt64.ofNat ((op.code * operandRange + a) * operandRange + b)⟩

/-- The operation. -/
def op (i : Instruction) : OpCode :=
  .ofCode (i.word.toNat / operandRange / operandRange)

/-- The first operand. -/
def a (i : Instruction) : Nat :=
  i.word.toNat / operandRange % operandRange

/-- The second operand. -/
def b (i : Instruction) : Nat :=
  i.word.toNat % operandRange

/-- The form shown for diagnosis: the word in decimal. -/
def debug (i : Instruction) : String :=
  s!"Instruction({i.word.toNat})"

variable {op : OpCode} {a b : Nat}

theorem toNat_word_pack (ha : a ≤ maxOperand) (hb : b ≤ maxOperand) :
    (pack op a b).word.toNat = (op.code * operandRange + a) * operandRange + b := by
  have := op.code_lt
  rw [pack, UInt64.toNat_ofNat_of_lt']
  simp only [UInt64.size, operandRange, maxOperand] at *
  omega

theorem op_pack (ha : a ≤ maxOperand) (hb : b ≤ maxOperand) : (pack op a b).op = op := by
  have : ((op.code * operandRange + a) * operandRange + b) / operandRange / operandRange =
      op.code := by
    simp only [operandRange, maxOperand] at *
    omega
  rw [Instruction.op, toNat_word_pack ha hb, this, OpCode.ofCode_code]

theorem a_pack (ha : a ≤ maxOperand) (hb : b ≤ maxOperand) : (pack op a b).a = a := by
  rw [Instruction.a, toNat_word_pack ha hb]
  simp only [operandRange, maxOperand] at *
  omega

theorem b_pack (ha : a ≤ maxOperand) (hb : b ≤ maxOperand) : (pack op a b).b = b := by
  rw [Instruction.b, toNat_word_pack ha hb]
  simp only [operandRange, maxOperand] at *
  omega

end Instruction

end Formulary
