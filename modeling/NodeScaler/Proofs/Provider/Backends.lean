import NodeScaler.Proofs.Inventory.Answering
import NodeScaler.Proofs.Plan.Matching
import NodeScaler.Proofs.Provider.Viewing
import NodeScaler.Proofs.Vcenter.Acting

/-!
# Machines made over two inventories

A server that mirrors an inventory in memory stands for it: it shows what the inventory has come to,
and goes on to do so whatever is asked. Attachments and clones through a session with the server
match those over the inventory itself, so the same names are passed over when a machine is made. The
names that are tried must not be those of templates, since the server lists these as machines.
-/

namespace NodeScaler.Cloning

open Plan (Matches Backwards)
open Vcenter (Site)

variable {σ : Type} {site : Site} {handler : Handler Http σ} {shows : σ → Memory → Prop}
  {start memory : Memory} {state : σ}

/-! ## Corresponding states -/

/-- The server shows an inventory that has come of another one by answering questions. -/
structure Stands (site : Site) (shows : σ → Memory → Prop) (start : Memory) (state : σ)
    (memory : Memory) : Prop where
  /-- It is shown. -/
  shown : shows state memory
  /-- Only machines carry tags. -/
  sound : memory.Sound
  /-- It has come of the other one. -/
  follows : Memory.Follows start memory
  /-- No machine has the name of the template. -/
  apart : site.cloning.template ∉ memory.machines

/-- All addresses are short enough, and no clone has been asked for by a name not for machines. -/
def Clear (site : Site) (start memory : Memory) : Prop :=
  site.Addressable memory ∧
    ∀ request ∈ memory.requests.drop start.requests.length, request.name ∉ site.kept

instance (site : Site) (start memory : Memory) : Decidable (Clear site start memory) :=
  inferInstanceAs (Decidable (_ ∧
    ∀ request ∈ memory.requests.drop start.requests.length, request.name ∉ site.kept))

/-- Once an address is too long or a name not for machines is tried, that remains so. -/
theorem clear_backwards (site : Site) (start : Memory) :
    Backwards Memory.answer (Clear site start) := by
  rintro question memory ⟨addressable, names⟩
  have follows := Memory.answer_follows question memory
  obtain ⟨more, noted⟩ := follows.requests
  constructor
  · intro url isAddress
    apply addressable
    unfold Site.addresses at isAddress ⊢
    rw [follows.tags]
    rcases List.mem_append.1 isAddress with isFixed | isMachine
    · exact List.mem_append_left _ isFixed
    · obtain ⟨index, inside, rfl⟩ := List.mem_map.1 isMachine
      have isThere := Nat.lt_of_lt_of_le (List.mem_range.1 inside) follows.machines
      exact List.mem_append_right _ (List.mem_map.2 ⟨index, List.mem_range.2 isThere, rfl⟩)
  · intro request isIn
    apply names
    rw [noted, List.drop_append]
    exact List.mem_append_left _ isIn

/-- Answering a question keeps the states corresponding, if the server shows what comes of it and
no machine gets the name of the template. -/
theorem Stands.answer (stands : Stands site shows start state memory) (question : Memory.Question)
    {last : σ} (shown : shows last (Memory.answer question memory).2)
    (apart : site.cloning.template ∉ (Memory.answer question memory).2.machines) :
    Stands site shows start last (Memory.answer question memory).2 where
  shown := shown
  sound := ((Memory.Step.answer question memory).sound stands.sound).1
  follows := stands.follows.trans (Memory.answer_follows question memory)
  apart := apart

/-! ## Lookups -/

/-- Lookups that settle on one value in both inventories match. -/
theorem Stands.lookup (stands : Stands site shows start state memory) {α : Type} {value : α}
    {first : Plan Http α} {second : Plan Memory.interface α}
    (settles : site.Addressable memory →
      first.Settles handler (shows · memory) (· = value))
    (settlesToo : second.Settles Memory.answer (· = memory) (· = value)) :
    first.Matches handler Memory.answer (Clear site start)
      (fun result other last final => result = value ∧ other = value ∧
        Stands site shows start last final) second state memory := by
  intro clear
  have now := (clear_backwards site start).run second clear
  have both : first.Matches handler Memory.answer (Clear site start) _ second state memory :=
    (settles now.1).matches settlesToo stands.shown rfl
  obtain ⟨result, other, firstEnds, secondEnds, isValue, isOther, shown, final⟩ := both clear
  refine ⟨result, other, firstEnds, secondEnds, isValue, isOther, ?_⟩
  rw [final]
  exact ⟨shown, stands.sound, stands.follows, stands.apart⟩

/-! ## Acting -/

/-- What becomes of a clone keeps the states corresponding. -/
theorem Stands.cloned (mirrors : site.Mirrors handler shows)
    (stands : Stands site shows start state memory) {name : String} (free : name ∉ site.kept)
    {last : σ} (shown : shows last (memory.cloned (site.cloning.request name)).2) :
    Stands site shows start last (memory.cloned (site.cloning.request name)).2 ∧
      ∀ object, (memory.cloned (site.cloning.request name)).1 = .ok object →
        (memory.cloned (site.cloning.request name)).2.Has object := by
  by_cases isTemplate : site.cloning.template ∈ memory.templates
  · have whole : memory.cloned (site.cloning.request name) =
        Memory.answer (.finishClone (site.cloning.request name)) memory := if_pos isTemplate
    rw [whole] at shown ⊢
    have differs : site.cloning.template ≠ name := by
      rintro rfl
      exact free mirrors.keeps
    have after : site.cloning.template ∉
        (Memory.answer (.finishClone (site.cloning.request name)) memory).2.machines ∧
        ∀ object, (Memory.answer (.finishClone (site.cloning.request name)) memory).1 = .ok object →
          (Memory.answer (.finishClone (site.cloning.request name)) memory).2.Has object := by
      rw [Memory.answer]
      split
      · exact ⟨stands.apart, fun _ isOk => by cases isOk⟩
      · split
        · exact ⟨stands.apart, fun _ isOk => by cases isOk⟩
        · obtain ⟨-, has, -⟩ := stands.sound.allocate name
          refine ⟨?_, fun object isOk => Except.ok.inj isOk ▸ has⟩
          change site.cloning.template ∉ memory.machines ++ [name]
          rw [List.mem_append, List.mem_singleton]
          exact fun either => either.elim stands.apart differs
    exact ⟨stands.answer _ shown after.1, after.2⟩
  · have whole : memory.cloned (site.cloning.request name) =
        (.error (.notFound ("template " ++ site.cloning.template)), memory) := if_neg isTemplate
    rw [whole] at shown ⊢
    exact ⟨⟨shown, stands.sound, stands.follows, stands.apart⟩, fun _ isOk => by cases isOk⟩

/-- Noting a request keeps the states corresponding. -/
theorem Stands.note (mirrors : site.Mirrors handler shows)
    (stands : Stands site shows start state memory) (request : CloneRequest) :
    Stands site shows start state (memory.note request) where
  shown := mirrors.unnoted _ stands.shown
  sound := stands.sound
  follows := stands.follows.trans (Memory.note_follows request memory)
  apart := stands.apart

/-- The name of a clone that is asked for is one for machines. -/
theorem Clear.free {request : CloneRequest} (clear : Clear site start (memory.note request))
    (follows : Memory.Follows start memory) : request.name ∉ site.kept := by
  obtain ⟨more, noted⟩ := follows.requests
  apply clear.2
  have requests : (memory.note request).requests = start.requests ++ (more ++ [request]) := by
    rw [Memory.note, noted, List.append_assoc]
  rw [requests, List.drop_left]
  exact List.mem_append_right _ List.mem_cons_self

/-- Attempts at machines that are alike: under the same number, with the same names passed over,
and with results that are alike. -/
structure Outcome.Like (outcome other : Outcome) : Prop where
  /-- The number is the same. -/
  number : outcome.number = other.number
  /-- The results are alike. -/
  result : Alike outcome.result other.result
  /-- As many names may still be passed over. -/
  collisions : outcome.collisions = other.collisions

end NodeScaler.Cloning
