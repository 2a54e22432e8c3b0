import Hyperlink.Proofs.Identifier.Invariant
import Hyperlink.Proofs.Identifier.Pinning
import Hyperlink.Proofs.Thread.Index
import Hyperlink.Shell.Run

/-!
# Hyperlink.Proofs.Shell.Promises — no promise between steps is broken

A `Fault` is where a step finds that a promise of the step before it does not hold. Each promise is kept for a reason of
its own, which is proved where the step is: `BlockRef.read_eq`, `Identifier.cutPath_eq`, `Address.locate_eq`,
`Identifier.build_eq`, `Thread.Index.groups_eq` and `Thread.Index.ancestry_eq`.

* `Faultless`: a computation that gives an answer. `Faultless.bind`: so does one step after another, and the second one
  may rely on the answer of the first.
* `Command.faultless_run`, `Request.faultless_toCommand`: every command runs, and every request makes a command.
* `no_promise_is_broken`: **whatever the library and the program are given, they give an answer.** Writing the links of
  an identifier and naming its type rely on no promise, so they are not listed.
-/

namespace Hyperlink

/-- The computation gives an answer. -/
def Faultless {α : Type} (x : Except Fault α) : Prop := ∃ a, x = .ok a

variable {α β : Type}

theorem faultless_ok (a : α) : Faultless (.ok a) := ⟨a, rfl⟩

/-- The second step may rely on what the first one gave. -/
theorem Faultless.bind {x : Except Fault α} {f : α → Except Fault β} (hx : Faultless x)
    (hf : ∀ a, x = .ok a → Faultless (f a)) : Faultless (x >>= f) := by
  obtain ⟨a, rfl⟩ := hx
  exact hf a rfl

theorem Faultless.map {x : Except Fault α} (hx : Faultless x) (f : α → β) : Faultless (x.map f) := by
  obtain ⟨a, rfl⟩ := hx
  exact faultless_ok (f a)

/-! ## Identifiers -/

namespace Identifier

theorem faultless_build {uid : String} (h : uid ≠ "") (t : EntityType) (o : Options) : Faultless (build t uid o) :=
  ⟨_, build_eq h t o⟩

/-- An empty uid is refused before it is built with. -/
theorem faultless_create (t : EntityType) (uid : String) (o : Options) : Faultless (create t uid o) := by
  unfold create
  split
  · exact faultless_ok _
  · next h => exact (faultless_build h t o).map _

theorem faultless_unpack (link : String) : Faultless (unpack link) := exists_unpack link

theorem faultless_parse (link : String) : Faultless (parse link) := by
  refine (faultless_unpack link).bind fun x _ => ?_
  cases x <;> exact faultless_ok _

end Identifier

/-- The uid of an identifier that was read is not empty, so that it can be built with again. -/
theorem Identifier.faultless_unpack_bind {f : Identifier → Except Fault (Option String)}
    (hf : ∀ x, x.uid ≠ "" → Faultless (f x)) (link : String) :
    Faultless (unpack link >>= fun x => match x with
      | none => return none
      | some x => f x) := by
  refine (faultless_unpack link).bind fun x hx => ?_
  cases x with
  | none => exact faultless_ok none
  | some x => exact hf x (unpack_uid_ne hx)

theorem faultless_normalizeLink (text gateway : String) : Faultless (normalizeLink text gateway) := by
  unfold normalizeLink
  split
  · exact faultless_ok _
  · split
    · exact faultless_ok _
    · refine Identifier.faultless_unpack_bind (fun x hx => ?_) text
      exact (Identifier.faultless_build hx _ _).bind fun y _ => faultless_ok _

theorem faultless_linkWithVersion (link version blockRef : Option String) (range : Option BlockRange) :
    Faultless (linkWithVersion link version blockRef range) := by
  unfold linkWithVersion
  split
  · exact faultless_ok _
  · next text _ =>
    refine Identifier.faultless_unpack_bind (fun x hx => ?_) text
    exact (Identifier.faultless_build hx _ _).bind fun y _ => faultless_ok _

/-! ## Threads -/

namespace Thread.Index

variable {C : Type} [ThreadEntry C]

theorem faultless_groups (cs : List C) (anchor : Option String) : Faultless (groups cs anchor) :=
  ⟨_, (groups_eq cs anchor).trans (Thread.groups_eq anchor)⟩

theorem faultless_ancestry (cs : List C) (target : String) : Faultless (ancestry cs target) :=
  ⟨_, ancestry_eq cs target⟩

end Thread.Index

/-! ## Commands and calls -/

/-- Every command runs. Its identifier and its comments may hold anything. -/
theorem Command.faultless_run (c : Command) (gateway : String) : Faultless (c.run gateway) := by
  unfold run
  cases c with
  | unpack link => exact (Identifier.faultless_parse link).bind fun x _ => faultless_ok _
  | pack x => exact faultless_ok _
  | webUrl x host => exact faultless_ok _
  | normalize link => exact (faultless_normalizeLink link gateway).bind fun text _ => faultless_ok _
  | withVersion id version blockRef range =>
    exact (faultless_linkWithVersion (some id) version blockRef range).bind fun text _ => faultless_ok _
  | groups comments target => exact (Thread.Index.faultless_groups comments target).bind fun gs _ => faultless_ok _
  | replies comments target => exact (Thread.Index.faultless_ancestry comments target).bind fun cs _ => faultless_ok _

namespace Shell

theorem faultless_readOptional (text : Option String) : Faultless (BlockRef.readOptional text) :=
  ⟨_, BlockRef.readOptional_eq text⟩

/-- Every request makes a command, or an error of its caller. -/
theorem Request.faultless_toCommand (r : Request) (gateway : String) (files : Files) :
    Faultless (r.toCommand gateway files) := by
  unfold toCommand
  cases r with
  | unpack link => exact faultless_ok _
  | pack type uid path version latest block =>
    refine (faultless_readOptional block).bind fun ref _ => ?_
    cases EntityType.parse type with
    | error e => exact faultless_ok _
    | ok t => exact (Identifier.faultless_create t uid _).bind fun x _ => faultless_ok _
  | web link host relative => exact (Identifier.faultless_parse link).bind fun x _ => faultless_ok _
  | normalize link => exact faultless_ok _
  | withVersion link version block => exact (faultless_readOptional block).bind fun ref _ => faultless_ok _
  | groups comments target => exact faultless_ok _
  | replies comments target => exact faultless_ok _

theorem Invocation.faultless_run (i : Invocation) (env : Option String) (files : Files) :
    Faultless (i.run env files) := by
  unfold run
  split
  · exact faultless_ok _
  · next gateway _ =>
    split
    · exact faultless_ok _
    · next files _ =>
      refine (i.request.faultless_toCommand gateway files).bind fun command _ => ?_
      cases command with
      | error e => exact faultless_ok _
      | ok command => exact (command.faultless_run gateway).bind fun answer _ => faultless_ok _

theorem Report.faultless_ofArguments (args : List String) (env : Option String) (files : Files) :
    Faultless (Report.ofArguments args env files) := by
  unfold ofArguments
  split
  · exact faultless_ok _
  · next i _ => exact (i.faultless_run env files).map _

/-- **No promise between steps is broken**, whatever the commands, the functions on links, the requests of the program
and the program as a whole are given. -/
theorem no_promise_is_broken :
    (∀ (c : Command) (gateway : String), Faultless (c.run gateway)) ∧
      (∀ t uid o, Faultless (Identifier.create t uid o)) ∧
      (∀ link, Faultless (Identifier.unpack link)) ∧
      (∀ link gateway, Faultless (normalizeLink link gateway)) ∧
      (∀ link version blockRef range, Faultless (linkWithVersion link version blockRef range)) ∧
      (∀ (r : Request) (gateway : String) (files : Files), Faultless (r.toCommand gateway files)) ∧
      ∀ args env files, Faultless (Report.ofArguments args env files) :=
  ⟨Command.faultless_run, Identifier.faultless_create, Identifier.faultless_unpack, faultless_normalizeLink,
    faultless_linkWithVersion, Request.faultless_toCommand, Report.faultless_ofArguments⟩

end Shell

end Hyperlink
