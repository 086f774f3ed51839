import Lifeline.Interaction.Chain

namespace Lifeline

theorem Location.same_refl (l : Location) : l.same l = true := by
  simp [same, Path.same]

namespace Interaction

variable {s : Interaction} {m : Message}

theorem setNote_push (s : Interaction) (m : Message) (note : String) :
    (s.push m).setNote s.size note = s.push { m with note := some (Text.trim note) } := by
  simp only [push, setNote, size, mk.injEq, true_and]
  apply Array.ext
  · simp
  · intro i hi hi'
    simp only [Array.getElem_modify, Array.getElem_push]
    grind

theorem lastCallAt?_push {site : Location} (hm : m.isResponse = false)
    (hsite : m.isAt site = true) : (s.push m).lastCallAt? site = some s.size := by
  simp [lastCallAt?, push, size, List.range_succ, hm, hsite]

theorem attachNote?_push {site : Location} (hm : m.isResponse = false) (hsite : m.isAt site = true)
    (note : String) :
    (s.push m).attachNote? site note = some (s.push { m with note := some (Text.trim note) }) := by
  rw [attachNote?, lastCallAt?_push hm hsite, Option.map_some, setNote_push]

theorem toList_push (s : Interaction) (m : Message) :
    (s.push m).messages.toList = s.messages.toList ++ [m] :=
  Array.toList_push

theorem calls_push (hm : m.isResponse = false) : (s.push m).calls = s.calls ++ [m] := by
  simp [calls, push, hm]

theorem calls_push_response (hm : m.isResponse = true) : (s.push m).calls = s.calls := by
  simp [calls, push, hm]

def opened (path cs : List Message) : List Message :=
  cs.foldl (fun path m => path.take m.depth ++ [m]) path

theorem opened_append (path cs ds : List Message) :
    opened path (cs ++ ds) = opened (opened path cs) ds :=
  List.foldl_append

theorem pathsFrom_append (path cs ds : List Message) :
    pathsFrom path (cs ++ ds) = pathsFrom path cs ++ pathsFrom (opened path cs) ds := by
  induction cs generalizing path with
  | nil => rfl
  | cons m rest ih =>
    simp only [List.cons_append, pathsFrom, ih]
    rfl

theorem opened_push (hm : m.isResponse = false) :
    opened [] (s.push m).calls = (opened [] s.calls).take m.depth ++ [m] := by
  rw [calls_push hm, opened_append]
  rfl

theorem paths_push (hm : m.isResponse = false) :
    (s.push m).paths = s.paths ++ [(opened [] s.calls).take m.depth ++ [m]] := by
  rw [paths, calls_push hm, pathsFrom_append]
  rfl

theorem take_opened {path cs : List Message} {n : Nat} (hn : n ≤ path.length)
    (hcs : ∀ m ∈ cs, n ≤ m.depth) :
    n ≤ (opened path cs).length ∧ (opened path cs).take n = path.take n := by
  induction cs generalizing path with
  | nil => exact ⟨hn, rfl⟩
  | cons m rest ih =>
    obtain ⟨hm, hrest⟩ := List.forall_mem_cons.1 hcs
    have hlen : n ≤ (path.take m.depth).length := by
      rw [List.length_take]
      omega
    have hnext : n ≤ (path.take m.depth ++ [m]).length := by
      rw [List.length_append]
      omega
    obtain ⟨hlong, htake⟩ := ih hnext hrest
    refine ⟨hlong, htake.trans ?_⟩
    rw [List.take_append_of_le_length hlen, List.take_take, Nat.min_eq_left hm]

end Interaction

end Lifeline
