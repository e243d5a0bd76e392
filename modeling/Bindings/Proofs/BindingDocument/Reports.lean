import Bindings.Proofs.BindingDocument.Functions

/-!
# What is reported of a header

A function without configuration of its own is warned of before it is bound; that it has been bound is for a verbose log
only.

* `Tells`: what a log shows of events, and which functions a verbose one says to be bound.
* `HeaderConfig.BindsEach.tells`: of functions that are bound, the log shows the warnings.
* `Header.tells_of_ok`: so it does of a header that is bound.
* `Header.tells_of_error`: of a header that is not, it shows them up to the function that is at fault. That function is
  warned of if its name is as the module asks.
-/

namespace Bindings

/-- Whether an event is for a verbose log only. -/
def Event.isDebug (e : Event) : Bool :=
  e.level == .debug

theorem Event.isShown_false (e : Event) : e.isShown false = !e.isDebug := by
  rw [isShown, isDebug, Bool.false_or]
  rfl

theorem Event.filter_isShown_false (es : List Event) : es.filter (isShown false) = es.filter (!·.isDebug) :=
  congrArg (List.filter · es) (funext isShown_false)

theorem Event.filter_isShown_true (es : List Event) : es.filter (isShown true) = es :=
  List.filter_eq_self.2 fun _ _ => rfl

/-- Of these events a log shows the given ones, and a verbose log also that the given functions are bound. -/
structure Tells (es shown : List Event) (functions : List BoundFunction) : Prop where
  shown_eq : es.filter (Event.isShown false) = shown
  debug_eq : es.filter Event.isDebug = functions.map BoundFunction.report

namespace Tells

variable {es es' shown shown' : List Event} {functions functions' : List BoundFunction}

theorem nil : Tells [] [] [] := ⟨rfl, rfl⟩

theorem append (h : Tells es shown functions) (h' : Tells es' shown' functions') :
    Tells (es ++ es') (shown ++ shown') (functions ++ functions') := by
  constructor
  · rw [List.filter_append, h.shown_eq, h'.shown_eq]
  · rw [List.filter_append, h.debug_eq, h'.debug_eq, List.map_append]

theorem report (b : BoundFunction) : Tells [b.report] [] [b] := ⟨rfl, rfl⟩

theorem warning (c : HeaderConfig) (function : String) : Tells (c.warning function) (c.warning function) [] := by
  rw [HeaderConfig.warning]
  cases c.functions.get? function <;> exact ⟨rfl, rfl⟩

end Tells

/-! ## Functions -/

/-- The warnings for functions without configuration of their own. -/
def HeaderConfig.warnings (c : HeaderConfig) (fs : List NativeFunction) : List Event :=
  (fs.filter fun f => (c.functions.get? f.name).isNone).map fun f => .unconfigured f.name

section Functions

variable {c : HeaderConfig} {f : NativeFunction} {fs : List NativeFunction} {b : BoundFunction} {bs : List BoundFunction}

theorem NativeFunction.name_of_transform (h : (f.transform c).outcome = .ok (some b)) : b.name = f.name := by
  cases hm : c.moduleName with
  | none =>
    rw [f.transform_of_unnamed hm] at h
    cases h
  | some module =>
    rcases f.transform_cases hm with ⟨b', hb, hname⟩ | ⟨e, he⟩
    · rw [hb] at h
      cases h
      exact hname
    · rw [he] at h
      cases h

namespace HeaderConfig

theorem warnings_cons (c : HeaderConfig) (f : NativeFunction) (fs : List NativeFunction) :
    c.warnings (f :: fs) = c.warning f.name ++ c.warnings fs := by
  rw [warnings, warnings, warning, List.filter_cons]
  cases c.functions.get? f.name <;> rfl

theorem warnings_concat (c : HeaderConfig) (fs : List NativeFunction) (f : NativeFunction) :
    c.warnings (fs ++ [f]) = c.warnings fs ++ c.warning f.name := by
  have hlast : c.warnings [f] = c.warning f.name := (c.warnings_cons f []).trans (List.append_nil _)
  rw [← hlast, warnings, List.filter_append, List.map_append, warnings, warnings]

/-- Of functions that are bound, a log shows the warnings. -/
theorem BindsEach.tells (h : c.BindsEach fs bs) : Tells (c.account bs) (c.warnings fs) bs := by
  induction h with
  | nil => exact .nil
  | @cons f b _ _ hf _ ih =>
    rw [account, List.flatMap_cons, warnings_cons, NativeFunction.name_of_transform hf]
    have hfirst := (Tells.warning c f.name).append (.report b)
    rw [List.append_nil, List.nil_append] at hfirst
    exact hfirst.append ih

end HeaderConfig

end Functions

/-! ## Headers -/

/-- The warnings for a header; without a module it has none. -/
def Header.warnings (h : Header) (c : HeaderConfig) : List Event :=
  if c.moduleName.isSome then c.warnings h.functions else []

namespace Header

variable {h : Header} {c : HeaderConfig} {d : BindingDocument} {e : Failure}

theorem events_generate (h : Header) (c : HeaderConfig) :
    (h.generate c).events = (transformAll c h.functions).events := by
  rw [generate, Traced.mapFailure]
  cases (transformAll c h.functions).outcome with
  | error e => rfl
  | ok bs => exact List.append_nil _

theorem tells_of_ok (hd : (h.generate c).outcome = .ok d) : Tells (h.generate c).events (h.warnings c) d.functions := by
  obtain ⟨_, _, _, hbs⟩ := (outcome_generate_eq_ok_iff h c).1 hd
  rw [events_generate, warnings]
  cases hm : c.moduleName with
  | none =>
    rw [transformAll_of_unnamed hm] at hbs ⊢
    rw [← Except.ok.inj hbs]
    exact .nil
  | some module =>
    rcases transformAll_cases hm h.functions with ⟨bs, heach, hall⟩ | ⟨_, _, _, _, _, _, _, _, hall⟩
    · rw [hall] at hbs ⊢
      rw [← Except.ok.inj hbs]
      exact heach.tells
    · rw [hall] at hbs
      cases hbs

/-- Where binding a header fails, the functions before the one at fault are bound. -/
theorem tells_of_error (he : (h.generate c).outcome = .error e) :
    ∃ module before f after bs e₀, c.moduleName = some module ∧ h.functions = before ++ f :: after ∧
      c.BindsEach before bs ∧ (f.transform c).outcome = .error e₀ ∧ e = e₀.inHeader h.name ∧
      Tells (h.generate c).events
        (c.warnings (if (exposedName module f.name).isOk then before ++ [f] else before)) bs := by
  obtain ⟨e₀, hfails, rfl⟩ := (outcome_generate_eq_error_iff h c).1 he
  rw [events_generate]
  cases hm : c.moduleName with
  | none =>
    rw [transformAll_of_unnamed hm] at hfails
    cases hfails
  | some module =>
    rcases transformAll_cases hm h.functions with ⟨_, _, hall⟩ | ⟨before, f, after, bs, e₁, hsplit, hbs, hf, hall⟩
    · rw [hall] at hfails
      cases hfails
    rw [hall] at hfails ⊢
    rw [← Except.error.inj hfails]
    refine ⟨module, before, f, after, bs, e₁, rfl, hsplit, hbs, hf, rfl, ?_⟩
    rcases f.transform_cases hm with ⟨b, hb, _⟩ | ⟨e₂, hevents⟩
    · rw [hb] at hf
      cases hf
    rw [hevents]
    cases (exposedName module f.name).isOk with
    | false =>
      rw [if_neg Bool.false_ne_true, if_neg Bool.false_ne_true, List.append_nil]
      exact hbs.tells
    | true =>
      have hlast := hbs.tells.append (.warning c f.name)
      rw [List.append_nil] at hlast
      rw [if_pos rfl, if_pos rfl, c.warnings_concat]
      exact hlast

end Header

end Bindings
