import FrameTap.Text.Basic

/-!
# What a reader gives

A reader takes the front of a text and gives what it has read together with the text behind it.
It may also give nothing, or a fault.  What it reads piece by piece it puts in front of what is
read behind the piece (`prepend`).
-/

namespace FrameTap

variable {α β : Type} {m : Type → Type} [Functor m]

/-- More in front of what was read. -/
def prepend (front : List α) (read : m (List α × β)) : m (List α × β) :=
  (fun (more, rest) => (front ++ more, rest)) <$> read

variable [LawfulFunctor m]

theorem nil_prepend (read : m (List α × β)) : prepend [] read = read := id_map read

theorem prepend_prepend (first second : List α) (read : m (List α × β)) :
    prepend first (prepend second read) = prepend (first ++ second) read := by
  simp only [prepend, Functor.map_map, List.append_assoc]

end FrameTap
