import NodeLink.Proofs.Course

/-!
# Steps are strokes and turns

Most laws do not turn on what is counted, or on where in a call an occasion arises. For these the
course of a call is a sequence of strokes, and the course of a step is what `Advance` says. The
premise is that logging is no occasion to call the link; publishing, consulting, writing and
flushing are, and calls may nest to any depth.
-/

set_option autoImplicit false

namespace NodeLink.Link

variable {σ : Type} {o : Surroundings σ} {l l' k : Link σ}

/-- A stroke leaves the identity of a link alone. -/
theorem Stroke.identity {l l' : Link σ} (h : Stroke l l') : l'.identity = l.identity := by
  cases h with
  | hungUp => rw [identity_hangUp]; rfl
  | _ => simp only [amid, count, note, spawn, setOut, startChain, issue, drop_eq, shift_eq]

/-- So do any number of strokes. -/
theorem Strokes.identity {l l' : Link σ} (h : Strokes l l') : l'.identity = l.identity := by
  induction h with
  | refl => rfl
  | tail _ last ih => exact last.identity.trans ih

/-! ## Calls are strokes -/

section Calls

variable {R : Occasion → Link σ → Link σ → Prop} (within : ∀ {k l l'}, R k l l' → Strokes l l')
include within

theorem Reloads.strokes (h : Reloads R l l') : Strokes l l' := by
  cases h with
  | @mk k meanwhile refusal s =>
    have asked := (within meanwhile).head (.counted l .reload)
    have offered := asked.tail (.noted k (a := .published .reload refusal) trivial)
    exact offered.tail (.drifted _ s)

/-- The loss is counted, and a reload is asked for. -/
theorem Reloads.strokes_loss {s : σ} (h : Reloads R ((l.count .loss).amid s) k) : Strokes l k :=
  ((h.strokes within).head (.drifted _ s)).head (.counted l .loss)

theorem Loses.strokes (h : Loses R l l') : Strokes l l' := by
  cases h with
  | heedless => exact .refl
  | down _ _ s => exact (Relation.ReflTransGen.single (.counted l .loss)).tail (.drifted _ s)
  | @restarted k persistent _ s reloads wanted t =>
    have asked := reloads.strokes_loss within
    have stays : k.identity.transient = false := asked.identity ▸ persistent
    have restarted := asked.tail (.restarted k wanted stays)
    have reported := restarted.tail (.spawned _ (j := .report (.pending k.ticketCount)) trivial)
    exact reported.tail (.drifted _ t)
  | @dropped k _ _ s reloads barred t =>
    have dropped := (reloads.strokes_loss within).tail (.dropped k barred)
    have reported := dropped.tail
      (.spawned _ (j := .report (.settled (.ok .disconnected))) trivial)
    exact reported.tail (.drifted _ t)

/-- A call is a sequence of strokes, if the calls made within it are. -/
theorem Performs.strokes {c : Call} (h : Performs o R c (l.note (.called c)) k) :
    Strokes l (k.note (.returned c)) := by
  cases h with
  | ignored _ h s =>
    exact ((Relation.ReflTransGen.single (.ignored l h)).tail (.drifted _ s)).tail
      (.returned _ nofun)
  | opened _ wanted down s =>
    exact ((Relation.ReflTransGen.single (.opened l wanted down)).tail (.drifted _ s)).tail
      (.returned _ nofun)
  | hungUp _ s =>
    exact ((Relation.ReflTransGen.single (.hungUp l)).tail (.drifted _ s)).tail
      (.returned _ fun _ => disconnected_hangUp _)
  | lost loses =>
    exact ((loses.strokes within).head (.noted l ⟨nofun, nofun⟩)).tail (.returned _ nofun)
  | reloaded reloads =>
    exact ((reloads.strokes within).head (.noted l ⟨nofun, nofun⟩)).tail (.returned _ nofun)
  | @flushed _ _ c _ _ _ _ meanwhile =>
    have asked := ((within meanwhile).head (.noted _ trivial)).head
      (.noted l (a := .called .flush) ⟨nofun, nofun⟩)
    exact (asked.tail (.marked _ false)).tail (.returned _ nofun)
  | unflushed =>
    exact (Relation.ReflTransGen.single (.noted l ⟨nofun, nofun⟩)).tail (.returned _ nofun)
  | @wrote _ _ c r _ _ _ _ meanwhile =>
    have asked := ((within meanwhile).head (.noted _ trivial)).head
      (.noted l (a := .called (.send r)) ⟨nofun, nofun⟩)
    exact (asked.tail (.marked _ true)).tail (.returned _ nofun)
  | @redirected _ k r _ s meanwhile refusal t =>
    have asked := (((within meanwhile).head (.drifted _ s)).head (.counted _ .redirect)).head
      (.noted l (a := .called (.send r)) ⟨nofun, nofun⟩)
    have offered := asked.tail (.noted k (a := .published (.redirect r) refusal) trivial)
    refine .tail (.tail ?_ (.drifted _ t)) (.returned _ nofun)
    cases refusal with
    | none => exact offered
    | some f =>
      have failed := offered.tail (.noted _ (a := .failed r.id f.fault) trivial)
      simpa only [note, redirecting, List.append_assoc, List.singleton_append, Option.toList_some,
        List.map_cons, List.map_nil] using failed
  | @rejected _ r =>
    have counted := (Relation.ReflTransGen.single (Stroke.noted l (a := .called (.send r))
      ⟨nofun, nofun⟩)).tail (.counted _ .rejection)
    exact (counted.tail (.spawned _ (j := .rejection r) trivial)).tail (.returned _ nofun)

end Calls

/-- What happens on an occasion are strokes, if the calls made on it are. -/
theorem strokes_occur {nested : Call → Link σ → Link σ} (within : ∀ c l, Strokes l (nested c l))
    (k : Occasion) (l : Link σ) : Within o Strokes k l (occur o nested k l) :=
  within_occur (fun l s => .single (.drifted l s)) .trans within k l

/-- Calls are strokes to any depth. -/
theorem strokes_nested (quiet : o.Quiet) (depth : Nat) :
    ∀ (c : Call) (l : Link σ), Strokes l (Link.nested o depth c l) :=
  within_nested (fun l s => .single (.drifted l s)) .trans quiet
    (fun performs => performs.strokes And.left) depth

/-! ## Steps -/

/-- The course of a step is strokes, or a turn and strokes, or a retry that is planned. -/
theorem Course.advance {R : Occasion → Link σ → Link σ → Prop}
    (within : ∀ {k l l'}, R k l l' → Strokes l l') {s : Step σ} (h : Course o R s l l') :
    Advance o s l l' := by
  -- what is done between the halves of planning a retry, before anybody is asked
  have told : ∀ {k : Link σ} (s : σ), Strokes k.consult ((k.count .failure).consult.amid s) :=
    fun s => (Relation.ReflTransGen.single (.counted _ .failure)).tail (.drifted _ s)
  have free : l.Unanswered s → ∀ id answer ticket bootstrap epoch, s = .answer id answer →
      l.job? id ≠ some (.attempt ticket bootstrap epoch true) := by
    rintro unanswered id answer ticket bootstrap epoch rfl
    exact unanswered ticket bootstrap epoch
  cases h with
  | called performs => exact .strokes (performs.strokes within) nofun
  | drifted _ unanswered t => exact .strokes (.single (.drifted l t)) (free unanswered)
  | attended _ unanswered current backlog =>
    exact .strokes (.single (.attended l current backlog)) (free unanswered)
  | @turned _ _ k acts _ turn _ t =>
    refine .turn turn (.tail ?_ (.drifted _ t))
    cases l.toll acts with
    | none => exact .refl
    | some c => exact .single (.counted k c)
  | told job => exact .turn (.ended _ l job trivial) (.single (.noted _ trivial))
  | lost job _ loses => exact .turn (.ended _ l job trivial) (loses.strokes within)
  | planned up s t u asked reloads =>
    have counted := ((within asked).tail (.counted _ .retry)).tail (.drifted _ t)
    exact .planned up (((told s).trans counted).trans (reloads.strokes within)) rfl
  | brokeDown loose up s t asked =>
    exact .brokeDown loose up (((told s).trans (within asked)).tail (.drifted _ t))
      (settle?_amid _ t _ _).symm

/-- An ordinary step is strokes, or a turn and strokes, or a retry that is planned. -/
theorem advance_step (quiet : o.Quiet) (depth : Nat) {s : Step σ} (ordinary : s.Ordinary)
    (l : Link σ) : Advance o s l (step o depth s l) :=
  (course_step quiet depth (strokes_occur (strokes_nested quiet depth)) ordinary l).advance And.left

end NodeLink.Link
