/-
  Settings — the values that the reading of documents can be set up with.

  1. **Values** — a setting is a single value, a list or a mapping. Which type a setting should have
     is up to who looks it up; `isVoid` tells the values that count as nothing: nothing itself,
     falsehood, zero, and all that is empty. A configuration may hold values of other types, too. No
     program looks into them; they count as nothing or not, and they can be shown.

  2. **Names** — an entry of a mapping is named by a single value. Numbers that are equal name the
     same entry, and truth and falsehood count as the numbers one and zero. Settings are looked up
     by texts.
-/

import LinearProgram.Decimal.Digits
import LinearProgram.Decimal.Layout
import LinearProgram.Text.Quoted

namespace LinearProgram

/-! ## Single values -/

/-- A value of a type that no program knows. -/
structure Foreign where
  isVoid : Bool
  /-- The value as it is shown inside another one, -/
  shown : Text
  /-- and as it stands in a message. -/
  inMessage : Text
deriving DecidableEq, Inhabited

/-- A value without parts that count. -/
inductive Scalar where
  | null
  | bool (b : Bool)
  | integer (z : Int)
  | real (x : Float)
  | text (t : Text)
  | foreign (value : Foreign)
deriving Inhabited

namespace Scalar

/-- Does the value count as nothing? -/
def isVoid : Scalar → Bool
  | null => true
  | bool b => !b
  | integer z => z == 0
  | real x => x == 0.0
  | text t => t.isEmpty
  | foreign value => value.isVoid

/-- The value as it is shown inside another one: texts between quotes. -/
def shown : Scalar → Text
  | null => "None".toList
  | bool true => "True".toList
  | bool false => "False".toList
  | integer z => Decimal.integer z
  | real x => Decimal.plain x
  | text t => t.quoted
  | foreign value => value.shown

/-- Is the value this text? -/
def isText (name : Text) : Scalar → Bool
  | text t => t == name
  | _ => false

/-- Truth and falsehood as the whole numbers that they count as. -/
def counted : Scalar → Scalar
  | bool true => integer 1
  | bool false => integer 0
  | s => s

/-- Do two values name the same entry? -/
def agrees (s s' : Scalar) : Bool :=
  match s.counted, s'.counted with
  | null, null => true
  | integer z, integer z' => z == z'
  | integer z, real x => Float.ofInt z == x
  | real x, integer z => x == Float.ofInt z
  | real x, real x' => x == x'
  | text t, s' => s'.isText t
  | foreign value, foreign value' => value == value'
  | _, _ => false

theorem agrees_text (name : Text) (s : Scalar) : (text name).agrees s = s.isText name := by
  cases s with
  | bool b => cases b <;> rfl
  | _ => rfl

end Scalar

/-! ## Settings -/

/-- A value of a configuration. -/
inductive Setting where
  | single (s : Scalar)
  | list (elements : List Setting)
  | mapping (entries : List (Scalar × Setting))
deriving Inhabited

namespace Setting

/-- A text as a setting. -/
@[match_pattern]
def text (t : Text) : Setting := single (.text t)

/-- A whole number as a setting. -/
@[match_pattern]
def integer (z : Int) : Setting := single (.integer z)

/-- A truth value as a setting. -/
@[match_pattern]
def bool (b : Bool) : Setting := single (.bool b)

/-- Nothing as a setting. -/
@[match_pattern]
def null : Setting := single .null

end Setting

/-- Named settings; no two names agree. -/
abbrev Settings := List (Scalar × Setting)

namespace Settings

/-- The setting that a text names. -/
def named? : Settings → Text → Option Setting
  | [], _ => none
  | (key, value) :: rest, name => if key.isText name then some value else named? rest name

/-- The setting of a name. -/
def get? (settings : Settings) (name : String) : Option Setting := settings.named? name.toList

/-- Sets the value of a name, which keeps its position if it had one. -/
def set : Settings → Scalar → Setting → Settings
  | [], key, value => [(key, value)]
  | (k, v) :: rest, key, value =>
    if key.agrees k then (k, value) :: rest else (k, v) :: set rest key value

/-- **What is set under a name is found under it**; what is found under the others stays. -/
theorem named?_set (settings : Settings) (name other : Text) (value : Setting) :
    (settings.set (.text name) value).named? other =
      if other = name then some value else settings.named? other := by
  induction settings with
  | nil =>
    by_cases h : other = name
    · simp [set, named?, Scalar.isText, h]
    · have h' : ¬ name = other := fun e => h e.symm
      simp [set, named?, Scalar.isText, h, h']
  | cons entry rest ih =>
    obtain ⟨k, v⟩ := entry
    rw [set, Scalar.agrees_text]
    by_cases hn : k.isText name = true
    · rw [if_pos hn, named?, named?]
      by_cases ho : other = name
      · simp [ho, hn]
      · have hk : k.isText other = false := by
          cases k with
          | text t =>
            simp only [Scalar.isText, beq_iff_eq] at hn
            simp [Scalar.isText, hn, Ne.symm ho]
          | _ => rfl
        simp [ho, hk]
    · rw [if_neg hn, named?, named?, ih]
      by_cases ho : other = name
      · simp [ho, hn]
      · simp [ho]

end Settings

namespace Setting

/-- Does the value count as nothing? -/
def isVoid : Setting → Bool
  | single s => s.isVoid
  | list elements => elements.isEmpty
  | mapping entries => entries.isEmpty

/-- The value, or `alternative` where there is none or one that counts as nothing. -/
def orElse (value? : Option Setting) (alternative : Setting) : Setting :=
  match value? with
  | some value => if value.isVoid then alternative else value
  | none => alternative

mutual

/-- The value as it is shown inside another one. -/
def shown : Setting → Text
  | single s => s.shown
  | list elements => '[' :: Text.join ", ".toList (shownElements elements) ++ [']']
  | mapping entries => '\x7b' :: Text.join ", ".toList (shownEntries entries) ++ ['\x7d']

/-- The elements of a list, shown. -/
def shownElements : List Setting → List Text
  | [] => []
  | e :: es => shown e :: shownElements es

/-- The entries of a mapping, shown. -/
def shownEntries : List (Scalar × Setting) → List Text
  | [] => []
  | (key, value) :: rest => (key.shown ++ ": ".toList ++ shown value) :: shownEntries rest

end

/-- The value as it stands in a message: a text as it is, anything else as it is shown. -/
def inMessage : Setting → Text
  | text t => t
  | single (.foreign value) => value.inMessage
  | value => shown value

end Setting

end LinearProgram
