/-
Writing values to a store and reading them back.

A codec writes every value and may fail to read one. It reads a value back if reading what was written gives the value.
- `poly`: a value of one of several classes is written with the name of its class, and read by that name. The reader has
  its own list of names.
- `option`, `list`, `dict`: containers are written element by element. A container is read back if every element is.
-/
import Gatecoin.Core.Dict
import Gatecoin.Core.Fault

namespace Gatecoin.Core

/-! ## The values of a dict -/

namespace Dict

variable {K V W : Type}

theorem map_fst_zip_sublist (ks : List K) (ws : List W) : ((ks.zip ws).map Prod.fst).Sublist ks := by
  induction ks generalizing ws with
  | nil => simp
  | cons k ks ih =>
    cases ws with
    | nil => simp
    | cons w ws => exact (ih ws).cons_cons k

/-- the same keys with other values -/
def withValues (d : Dict K V) (ws : List W) : Dict K W :=
  ⟨d.keys.zip ws, d.nodup.sublist (map_fst_zip_sublist d.keys ws)⟩

theorem length_keys (d : Dict K V) : d.keys.length = d.values.length := by simp [keys, values]

theorem values_withValues {d : Dict K V} {ws : List W} (h : ws.length = d.values.length) : (d.withValues ws).values = ws :=
  List.map_snd_zip (by rw [length_keys, h])

theorem keys_withValues {d : Dict K V} {ws : List W} (h : ws.length = d.values.length) : (d.withValues ws).keys = d.keys :=
  List.map_fst_zip (by rw [length_keys, h])

/-- a dict is its keys and its values -/
theorem eq_of_keys_values {d d' : Dict K V} (hk : d.keys = d'.keys) (hv : d.values = d'.values) : d = d' := by
  obtain ⟨l, hl⟩ := d
  obtain ⟨l', hl'⟩ := d'
  have h : l = l' := by
    rw [← List.zip_unzip l, ← List.zip_unzip l', List.unzip_eq_map, List.unzip_eq_map]
    exact congrArg₂ List.zip hk hv
  subst h
  rfl

end Dict

/-! ## Codecs -/

structure Codec (ε α β : Type) where
  dump : α → β
  load : β → Except ε α

/-- a written value with the name of its class -/
structure Tagged (α : Type) where
  className : String
  value : α

namespace Codec

variable {ε α β K : Type}

def ReadsBack (c : Codec ε α β) (a : α) : Prop := c.load (c.dump a) = .ok a

/-- `unknown` is the error for a name that the reader does not have -/
def poly (className : α → String) (allowed : List String) (unknown : ε) : Codec ε α (Tagged α) where
  dump a := ⟨className a, a⟩
  load t := if t.className ∈ allowed then .ok t.value else .error unknown

def option (c : Codec ε α β) : Codec ε (Option α) (Option β) where
  dump o := o.map c.dump
  load o := match o with
    | none => .ok none
    | some b => (c.load b).map some

def list (c : Codec ε α β) : Codec ε (List α) (List β) where
  dump l := l.map c.dump
  load l := l.mapM c.load

def dict (c : Codec ε α β) : Codec ε (Dict K α) (Dict K β) where
  dump d := d.withValues (d.values.map c.dump)
  load d := (c.list.load d.values).map d.withValues

theorem poly_readsBack {className : α → String} {allowed : List String} {unknown : ε} {a : α} :
    (poly className allowed unknown).ReadsBack a ↔ className a ∈ allowed := by
  simp only [ReadsBack, poly]
  split_ifs with h
  · exact ⟨fun _ => h, fun _ => rfl⟩
  · exact ⟨fun hload => (by cases hload), fun ha => absurd ha h⟩

theorem option_readsBack {c : Codec ε α β} {o : Option α} : c.option.ReadsBack o ↔ ∀ a ∈ o, c.ReadsBack a := by
  cases o with
  | none => simp [ReadsBack, option]
  | some a =>
    simp only [ReadsBack, option, Option.map_some, Option.mem_some_iff, forall_eq']
    cases c.load (c.dump a) <;> simp [Except.map]

theorem list_readsBack {c : Codec ε α β} {l : List α} : c.list.ReadsBack l ↔ ∀ a ∈ l, c.ReadsBack a := by
  induction l with
  | nil => simp [ReadsBack, list, pure, Except.pure]
  | cons a l ih =>
    simp only [ReadsBack, list, List.map_cons, List.mapM_cons, do_ok, List.forall_mem_cons] at ih ⊢
    constructor
    · rintro ⟨b, hb, bs, hbs, heq⟩
      cases heq
      exact ⟨hb, ih.1 hbs⟩
    · rintro ⟨ha, hl⟩
      exact ⟨a, ha, l, ih.2 hl, rfl⟩

theorem length_of_mapM {f : β → Except ε α} {l : List β} {l' : List α} (h : l.mapM f = .ok l') : l'.length = l.length := by
  induction l generalizing l' with
  | nil => cases h; rfl
  | cons b l ih =>
    simp only [List.mapM_cons, do_ok] at h
    obtain ⟨a, -, l'', hl, rfl⟩ := h
    rw [List.length_cons, List.length_cons, ih hl]

theorem dict_readsBack {c : Codec ε α β} {d : Dict K α} : c.dict.ReadsBack d ↔ ∀ a ∈ d.values, c.ReadsBack a := by
  have hlength : (d.values.map c.dump).length = d.values.length := List.length_map _
  have hvalues : (d.withValues (d.values.map c.dump)).values = d.values.map c.dump := Dict.values_withValues hlength
  rw [← list_readsBack]
  simp only [ReadsBack, dict, list, hvalues]
  cases hload : (d.values.map c.dump).mapM c.load with
  | error e => simp [Except.map]
  | ok vs =>
    have hvs : vs.length = (d.withValues (d.values.map c.dump)).values.length := by rw [length_of_mapM hload, hvalues]
    simp only [Except.map, Except.ok.injEq]
    constructor
    · intro h
      rw [← h, Dict.values_withValues hvs]
    · intro h
      subst h
      exact Dict.eq_of_keys_values ((Dict.keys_withValues hvs).trans (Dict.keys_withValues hlength))
        (Dict.values_withValues hvs)

end Codec

end Gatecoin.Core
