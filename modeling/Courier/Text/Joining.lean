import Courier.Text.Composition
import Courier.Text.Mark

/-!
# Joining

Letters of cursive scripts join their neighbours, and two characters without a shape of
their own control that : a joiner stands after a virama only, and a non-joiner there or
between two letters that would join. `joinersFit` says whether all of them stand where they
may.
-/

namespace Courier.Text

/-- To which neighbours a letter joins. -/
inductive Joining where
  /-- To the letter before it. -/
  | before
  /-- To the letter after it. -/
  | after
  | both
  deriving Repr, DecidableEq

/-- The ranges of letters that join others. -/
def joiningRanges : List (Nat × Nat × Joining) :=
  [(0x620, 0x620, .both), (0x622, 0x625, .before), (0x626, 0x626, .both), (0x627, 0x627, .before),
   (0x628, 0x628, .both), (0x629, 0x629, .before), (0x62A, 0x62E, .both), (0x62F, 0x632, .before),
   (0x633, 0x63F, .both), (0x641, 0x647, .both), (0x648, 0x648, .before), (0x649, 0x64A, .both),
   (0x66E, 0x66F, .both), (0x671, 0x673, .before), (0x679, 0x687, .both), (0x688, 0x699, .before),
   (0x69A, 0x6BF, .both), (0x6C0, 0x6C0, .before), (0x6C1, 0x6C2, .both), (0x6C3, 0x6CB, .before),
   (0x6CC, 0x6CC, .both), (0x6CD, 0x6CD, .before), (0x6CE, 0x6CE, .both), (0x6CF, 0x6CF, .before),
   (0x6D0, 0x6D1, .both), (0x6D2, 0x6D3, .before), (0x6D5, 0x6D5, .before),
   (0x6EE, 0x6EF, .before), (0x6FA, 0x6FC, .both), (0x6FF, 0x6FF, .both), (0x710, 0x710, .before),
   (0x712, 0x714, .both), (0x715, 0x719, .before), (0x71A, 0x71D, .both), (0x71E, 0x71E, .before),
   (0x71F, 0x727, .both), (0x728, 0x728, .before), (0x729, 0x729, .both), (0x72A, 0x72A, .before),
   (0x72B, 0x72B, .both), (0x72C, 0x72C, .before), (0x72D, 0x72E, .both), (0x72F, 0x72F, .before),
   (0x74D, 0x74D, .before), (0x74E, 0x758, .both), (0x759, 0x75B, .before), (0x75C, 0x76A, .both),
   (0x76B, 0x76C, .before), (0x76D, 0x770, .both), (0x771, 0x771, .before), (0x772, 0x772, .both),
   (0x773, 0x774, .before), (0x775, 0x777, .both), (0x778, 0x779, .before), (0x77A, 0x77F, .both),
   (0x7CA, 0x7EA, .both), (0x840, 0x840, .before), (0x841, 0x845, .both), (0x846, 0x847, .before),
   (0x848, 0x848, .both), (0x849, 0x849, .before), (0x84A, 0x853, .both), (0x854, 0x854, .before),
   (0x855, 0x855, .both), (0x856, 0x858, .before), (0x860, 0x860, .both), (0x862, 0x865, .both),
   (0x867, 0x867, .before), (0x868, 0x868, .both), (0x869, 0x882, .before), (0x886, 0x886, .both),
   (0x889, 0x88D, .both), (0x88E, 0x88E, .before), (0x88F, 0x88F, .both), (0x8A0, 0x8A9, .both),
   (0x8AA, 0x8AC, .before), (0x8AE, 0x8AE, .before), (0x8AF, 0x8B0, .both),
   (0x8B1, 0x8B2, .before), (0x8B3, 0x8B8, .both), (0x8B9, 0x8B9, .before), (0x8BA, 0x8C8, .both),
   (0x1807, 0x1807, .both), (0x1820, 0x1878, .both), (0x1887, 0x18A8, .both),
   (0x18AA, 0x18AA, .both), (0xA840, 0xA871, .both), (0xA872, 0xA872, .after),
   (0x10AC0, 0x10AC4, .both), (0x10AC5, 0x10AC5, .before), (0x10AC7, 0x10AC7, .before),
   (0x10AC9, 0x10ACA, .before), (0x10ACD, 0x10ACD, .after), (0x10ACE, 0x10AD2, .before),
   (0x10AD3, 0x10AD6, .both), (0x10AD7, 0x10AD7, .after), (0x10AD8, 0x10ADC, .both),
   (0x10ADD, 0x10ADD, .before), (0x10ADE, 0x10AE0, .both), (0x10AE1, 0x10AE1, .before),
   (0x10AE4, 0x10AE4, .before), (0x10AEB, 0x10AEE, .both), (0x10AEF, 0x10AEF, .before),
   (0x10B80, 0x10B80, .both), (0x10B81, 0x10B81, .before), (0x10B82, 0x10B82, .both),
   (0x10B83, 0x10B85, .before), (0x10B86, 0x10B88, .both), (0x10B89, 0x10B89, .before),
   (0x10B8A, 0x10B8B, .both), (0x10B8C, 0x10B8C, .before), (0x10B8D, 0x10B8D, .both),
   (0x10B8E, 0x10B8F, .before), (0x10B90, 0x10B90, .both), (0x10B91, 0x10B91, .before),
   (0x10BA9, 0x10BAC, .before), (0x10BAD, 0x10BAE, .both), (0x10D00, 0x10D00, .after),
   (0x10D01, 0x10D21, .both), (0x10D22, 0x10D22, .before), (0x10D23, 0x10D23, .both),
   (0x10EC2, 0x10EC2, .before), (0x10EC3, 0x10EC4, .both), (0x10EC6, 0x10EC7, .both),
   (0x10F30, 0x10F32, .both), (0x10F33, 0x10F33, .before), (0x10F34, 0x10F44, .both),
   (0x10F51, 0x10F53, .both), (0x10F54, 0x10F54, .before), (0x10F70, 0x10F73, .both),
   (0x10F74, 0x10F75, .before), (0x10F76, 0x10F81, .both), (0x10FB0, 0x10FB0, .both),
   (0x10FB2, 0x10FB3, .both), (0x10FB4, 0x10FB6, .before), (0x10FB8, 0x10FB8, .both),
   (0x10FB9, 0x10FBA, .before), (0x10FBB, 0x10FBC, .both), (0x10FBD, 0x10FBD, .before),
   (0x10FBE, 0x10FBF, .both), (0x10FC1, 0x10FC1, .both), (0x10FC2, 0x10FC3, .before),
   (0x10FC4, 0x10FC4, .both), (0x10FC9, 0x10FC9, .before), (0x10FCA, 0x10FCA, .both),
   (0x10FCB, 0x10FCB, .after), (0x1E922, 0x1E943, .both)]

/-- How a letter joins its neighbours, if it does. -/
def joining? (c : Char) : Option Joining :=
  (joiningRanges.find? fun (first, last, _) => first ≤ c.toNat ∧ c.toNat ≤ last).map (·.2.2)

/-- A character that joining passes over. -/
def isTransparent (c : Char) : Bool :=
  isNonspacing c ∨ c = Char.ofNat 0x1E94B

/-- A sign that takes the vowel from a letter. -/
def isVirama (c : Char) : Bool :=
  markClass c.toNat = 9

/-- Whether a non-joiner separates two letters that would join, given the characters before it,
the last one first, and those after it. -/
def separates (before after : List Char) : Bool :=
  let reach (cs : List Char) : Option Joining :=
    ((cs.dropWhile isTransparent).head?).bind joining?
  (reach before = some .after ∨ reach before = some .both)
    ∧ (reach after = some .before ∨ reach after = some .both)

/-- Whether the joiners and non-joiners of a text stand where they may, given the characters
before it, the last one first. -/
def joinersFit : List Char → List Char → Bool
  | _, [] => true
  | before, c :: rest =>
    let afterVirama : Bool := (before.head?.map isVirama).getD false
    let fits : Bool :=
      if c = '\u200d' then afterVirama
      else if c = '\u200c' then afterVirama ∨ separates before rest
      else true
    fits && joinersFit (c :: before) rest

end Courier.Text
