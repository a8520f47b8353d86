import Escalation.Proofs.Text.Search
import Escalation.Time.TimeOfDay

/-!
# Windows of the day

A window is written as a list of two times or as one text with a dash between them
(`TimeWindow.Spells`). Both ways are read as the same window (`TimeWindow.Spells.ofValue`): a text that
is read as a time has no dash in it, so the first dash is the one between the times.
-/

namespace Escalation

theorem TimeOfDay.not_mem_of_parts? {cs : List Char} {parts : Nat × Nat}
    (named : parts? cs = some parts) : '-' ∉ cs := by
  unfold parts? at named
  split at named
  · next hour minute cut =>
    obtain ⟨rfl, -⟩ := Text.eq_append_of_cutAt cut
    split at named
    · next shape =>
      simp only [Bool.and_eq_true, List.all_eq_true] at shape
      intro mem
      rcases List.mem_append.mp mem with mem | mem
      · exact absurd (shape.1.2 _ mem) (by decide)
      · rcases List.mem_cons.mp mem with eq | mem
        · cases eq
        · exact absurd (shape.2 _ mem) (by decide)
    · cases named
  · cases named

/-- A text that is read as a time has no dash in it, not even among the blanks around the time. -/
theorem TimeOfDay.not_mem_of_read {text : String} {time : TimeOfDay}
    (isTime : read text = .ok time) : '-' ∉ text.toList := by
  unfold read at isTime
  split at isTime
  · next hour minute named =>
    exact mt (Text.mem_trimChars (by decide)).mpr (not_mem_of_parts? named)
  · cases isTime

namespace TimeWindow

/-- **The two ways to write a window.** -/
inductive Spells (start stop : String) : Value → Prop
  | pair : Spells start stop (.list [.text start, .text stop])
  | dash : Spells start stop (.text (start ++ "-" ++ stop))

variable {start stop : String} {s e : TimeOfDay} {operand : Value}

theorem Spells.ofValue (spells : Spells start stop operand) (first : TimeOfDay.read start = .ok s)
    (second : TimeOfDay.read stop = .ok e) : ofValue operand = .ok ⟨s, e⟩ := by
  cases spells with
  | pair =>
    simp only [TimeWindow.ofValue, TimeOfDay.ofValue, first, second]
    rfl
  | dash =>
    have cut : Text.cutAt '-' (start ++ "-" ++ stop).toList =
        some (start.toList, stop.toList) := by
      have shape : (start ++ "-" ++ stop).toList = start.toList ++ '-' :: stop.toList := by simp
      rw [shape]
      exact Text.cutAt_append (TimeOfDay.not_mem_of_read first) _
    simp only [TimeWindow.ofValue, cut, String.ofList_toList, first, second]
    rfl

theorem contains_of_le (ordered : s.minutes ≤ e.minutes) (now : TimeOfDay) :
    contains ⟨s, e⟩ now = (decide (s.minutes ≤ now.minutes) && decide (now.minutes < e.minutes)) := by
  simp only [contains, wraps, decide_eq_false (Nat.not_lt.mpr ordered), Bool.false_eq_true, if_false]

theorem contains_of_lt (wrapped : e.minutes < s.minutes) (now : TimeOfDay) :
    contains ⟨s, e⟩ now = (decide (s.minutes ≤ now.minutes) || decide (now.minutes < e.minutes)) := by
  simp only [contains, wraps, decide_eq_true wrapped, if_true]

end TimeWindow

end Escalation
