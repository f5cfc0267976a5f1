/- Closed tables of register codes. -/

set_option autoImplicit false
set_option relaxedAutoImplicit false

namespace Oscilloscope

universe u

/-- A closed table: its rows in order, the code of each, and the text shown for it. -/
class CodeTable (α : Type u) where
  all : List α
  code : α → UInt8
  name : α → String
  mem_all : ∀ a, a ∈ all
  code_inj : ∀ a b, code a = code b → a = b

namespace CodeTable

variable {α : Type u} [CodeTable α]

def ofCode? (c : UInt8) : Option α :=
  (all : List α).find? fun a => code a == c

def ofName? (text : String) : Option α :=
  (all : List α).find? fun a => name a == text

theorem code_of_ofCode? {c : UInt8} {a : α} (h : ofCode? c = some a) : code a = c := by
  simpa using List.find?_some h

@[simp] theorem ofCode?_code (a : α) : ofCode? (code a) = some a := by
  cases h : (ofCode? (code a) : Option α) with
  | none =>
    have := List.find?_eq_none.1 h a (mem_all a)
    simp at this
  | some b => rw [code_inj b a (code_of_ofCode? h)]

theorem name_of_ofName? {text : String} {a : α} (h : ofName? text = some a) : name a = text := by
  simpa using List.find?_some h

end CodeTable

end Oscilloscope
