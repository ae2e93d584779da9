/-!
Lists of keys with values, in the order in which the keys first came. Giving a key again keeps
its place and takes the new value.
-/

namespace UniversalModule

abbrev Keyed (κ : Type u) (α : Type v) := List (κ × α)

namespace Keyed

variable {κ : Type u} {α : Type v} [DecidableEq κ]

def put (key : κ) (value : α) : Keyed κ α → Keyed κ α
  | [] => [(key, value)]
  | (other, old) :: rest =>
      if other = key then (key, value) :: rest else (other, old) :: put key value rest

def get? (key : κ) : Keyed κ α → Option α
  | [] => none
  | (other, value) :: rest => if other = key then some value else get? key rest

def keys (entries : Keyed κ α) : List κ := entries.map Prod.fst

/-- The entries of a list in which keys may repeat. -/
def ofList (entries : List (κ × α)) : Keyed κ α :=
  entries.foldl (fun found entry => put entry.1 entry.2 found) []

theorem get?_put (key other : κ) (value : α) (entries : Keyed κ α) :
    get? other (put key value entries) = if key = other then some value else get? other entries := by
  induction entries with
  | nil => simp [put, get?]
  | cons entry rest induction =>
      obtain ⟨first, old⟩ := entry
      simp only [put]
      split
      · next same =>
          subst same
          simp only [get?]
          split <;> rfl
      · next differs =>
          simp only [get?, induction]
          split
          · next isFirst =>
              rw [if_neg]
              intro same
              exact differs (isFirst.trans same.symm)
          · rfl

/-- A new key comes last; a known one changes no place. -/
theorem keys_put (key : κ) (value : α) (entries : Keyed κ α) :
    keys (put key value entries) = if key ∈ keys entries then keys entries else keys entries ++ [key] := by
  induction entries with
  | nil => simp [put, keys]
  | cons entry rest induction =>
      obtain ⟨first, old⟩ := entry
      simp only [keys] at induction
      simp only [put, keys]
      split
      · next same => simp [same]
      · next differs =>
          simp only [List.map_cons, induction, List.mem_cons]
          by_cases known : key ∈ List.map Prod.fst rest
          · simp [known]
          · simp [known, Ne.symm differs]

theorem nodup_keys_put {key : κ} {value : α} {entries : Keyed κ α} (distinct : (keys entries).Nodup) :
    (keys (put key value entries)).Nodup := by
  rw [keys_put]
  split
  · exact distinct
  · next fresh =>
      rw [List.nodup_append]
      refine ⟨distinct, by simp, ?_⟩
      intro a known b isKey
      simp only [List.mem_singleton] at isKey
      subst isKey
      exact fun same => fresh (same ▸ known)

theorem nodup_keys_ofList (entries : List (κ × α)) : (keys (ofList entries)).Nodup := by
  have grown : ∀ (found : Keyed κ α), (keys found).Nodup →
      (keys (entries.foldl (fun found entry => put entry.1 entry.2 found) found)).Nodup := by
    induction entries with
    | nil => exact fun _ distinct => distinct
    | cons entry rest induction => exact fun _ distinct => induction _ (nodup_keys_put distinct)
  exact grown [] (by simp [keys])

end Keyed

end UniversalModule
