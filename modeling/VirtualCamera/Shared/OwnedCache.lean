import Mathlib.Data.List.Nodup
import Mathlib.Data.List.Perm.Basic

set_option autoImplicit false

namespace OwnedCache

variable {K V : Type} {cache : List (K × V)} {live : List V} {key : K} {value : V}

structure Owns (cache : List (K × V)) (live : List V) : Prop where
  keys : (cache.map Prod.fst).Nodup
  values : (cache.map Prod.snd).Perm live
  nodup : live.Nodup

namespace Owns

theorem nil : Owns ([] : List (K × V)) [] := ⟨.nil, .nil, .nil⟩

theorem member (owns : Owns cache live) (entry : (key, value) ∈ cache) : value ∈ live :=
  owns.values.subset (List.mem_map_of_mem entry)

theorem unique (owns : Owns cache live) (present : value ∈ live) : ∃! key, (key, value) ∈ cache := by
  obtain ⟨⟨key, value⟩, entry, rfl⟩ := List.mem_map.mp (owns.values.symm.subset present)
  refine ⟨key, entry, fun other also => ?_⟩
  have once : (cache.map Prod.snd).Nodup := owns.values.nodup_iff.mpr owns.nodup
  exact congrArg Prod.fst (List.inj_on_of_nodup_map once also entry rfl)

theorem insert (owns : Owns cache live) (absent : key ∉ cache.map Prod.fst) (fresh : value ∉ live) :
    Owns ((key, value) :: cache) (value :: live) :=
  ⟨List.nodup_cons.mpr ⟨absent, owns.keys⟩, owns.values.cons value, List.nodup_cons.mpr ⟨fresh, owns.nodup⟩⟩

theorem perm {other : List (K × V)} (owns : Owns cache live) (same : cache.Perm other) : Owns other live :=
  ⟨(same.map Prod.fst).nodup_iff.mp owns.keys, (same.map Prod.snd).symm.trans owns.values, owns.nodup⟩

theorem tail [DecidableEq V] {entry : K × V} (owns : Owns (entry :: cache) live) :
    Owns cache (live.erase entry.2) := by
  refine ⟨(List.nodup_cons.mp owns.keys).2, ?_, owns.nodup.erase _⟩
  have rest := owns.values.erase entry.2
  rwa [List.map_cons, List.erase_cons_head] at rest

theorem remove [BEq K] [LawfulBEq K] [DecidableEq V] (owns : Owns cache live) (entry : (key, value) ∈ cache) :
    Owns (cache.filter fun entry => entry.1 != key) (live.erase value) := by
  have only : cache.filter (fun entry => entry.1 != key) = cache.erase (key, value) := by
    rw [owns.keys.of_map.erase_eq_filter]
    refine List.filter_congr fun other member => ?_
    rw [Bool.eq_iff_iff, bne_iff_ne, bne_iff_ne]
    refine not_congr ⟨fun same => ?_, fun same => congrArg Prod.fst same⟩
    exact List.inj_on_of_nodup_map owns.keys member entry same
  rw [only]
  exact (owns.perm (List.perm_cons_erase entry)).tail

end Owns

end OwnedCache
