import DebugServer.Location.Numbering

/-!
# Shifting lines and columns

The conversions between a client's numbering and the engine's, in integers: a shift by one where the
client counts from zero, which stops at the bounds of 64-bit numbers. By way of the engine only the
greatest number does not come back to the client as it was; by way of the client only the least does
not come back to the engine.
-/

namespace DebugServer

theorem toInt_successor (n : Int64) :
    (successor n).toInt = min Int64.maxValue.toInt (n.toInt + 1) := by
  have hone : Int64.toInt 1 = 1 := rfl
  have hgreatest : Int64.maxValue.toInt = 9223372036854775807 := rfl
  have hleast := n.le_toInt
  have hmost := n.toInt_lt
  by_cases h : n = Int64.maxValue
  · rw [successor, if_pos h, h, hgreatest]
    decide
  · rw [← Int64.toInt_inj, hgreatest] at h
    rw [successor, if_neg (mt (congrArg Int64.toInt) h), Int64.toInt_add, hone, hgreatest,
      Int.bmod_eq_of_le] <;> omega

theorem toInt_predecessor (n : Int64) :
    (predecessor n).toInt = max Int64.minValue.toInt (n.toInt - 1) := by
  have hone : Int64.toInt 1 = 1 := rfl
  have hleastValue : Int64.minValue.toInt = -9223372036854775808 := rfl
  have hleast := n.le_toInt
  have hmost := n.toInt_lt
  by_cases h : n = Int64.minValue
  · rw [predecessor, if_pos h, h, hleastValue]
    decide
  · rw [← Int64.toInt_inj, hleastValue] at h
    rw [predecessor, if_neg (mt (congrArg Int64.toInt) h), Int64.toInt_sub, hone, hleastValue,
      Int.bmod_eq_of_le] <;> omega

namespace Numbering

/-- By how much a client's numbers are less than the engine's. -/
def shift (fromOne : Bool) : Int :=
  if fromOne then 0 else 1

/-- What a client is told of its own number that has been to the engine and back. -/
def returned (fromOne : Bool) (n : Int64) : Int64 :=
  if fromOne = false ∧ n = Int64.maxValue then Int64.maxValue - 1 else n

variable (fromOne : Bool) (n : Int64)

theorem toInt_toEngine :
    (toEngine fromOne n).toInt = min Int64.maxValue.toInt (n.toInt + shift fromOne) := by
  cases fromOne with
  | false => exact toInt_successor n
  | true =>
    have hmost := n.toInt_le
    simp only [toEngine, shift, if_true]
    omega

theorem toInt_toClient :
    (toClient fromOne n).toInt = max Int64.minValue.toInt (n.toInt - shift fromOne) := by
  cases fromOne with
  | false => exact toInt_predecessor n
  | true =>
    have hleast := n.minValue_le_toInt
    simp only [toClient, shift, if_true]
    omega

theorem toClient_toEngine : toClient fromOne (toEngine fromOne n) = returned fromOne n := by
  cases fromOne with
  | true => rfl
  | false =>
    by_cases h : n = Int64.maxValue
    · rw [h]
      rfl
    · have hleast := n.minValue_le_toInt
      have hmost := n.toInt_le
      rw [returned, if_neg (fun hgreatest => h hgreatest.2), ← Int64.toInt_inj, toInt_toClient,
        toInt_toEngine]
      rw [← Int64.toInt_inj] at h
      simp only [shift, Bool.false_eq_true, if_false]
      omega

theorem toEngine_toClient (h : n ≠ Int64.minValue) :
    toEngine fromOne (toClient fromOne n) = n := by
  cases fromOne with
  | true => rfl
  | false =>
    have hleast := n.minValue_le_toInt
    have hmost := n.toInt_le
    rw [Ne, ← Int64.toInt_inj] at h
    rw [← Int64.toInt_inj, toInt_toEngine, toInt_toClient]
    simp only [shift, Bool.false_eq_true, if_false]
    omega

end Numbering

end DebugServer
