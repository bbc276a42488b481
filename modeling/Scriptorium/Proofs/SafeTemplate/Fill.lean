import Mathlib
import Scriptorium.Proofs.SafeTemplate.Check

/-!
# Filling in that cannot fault

Filling in code either succeeds, or says what is wrong with the code or which argument is missing,
whatever the arguments are, as long as the code is a safe template (`Arguments.fill_of_isSafe`): one
that can be read, and whose statements are made of safe expressions. So what can fault is an
operation that is not among those that have kinds.

One of these is enough to fault. A division by zero is neither a result nor a wrong template nor a
missing argument (`Arguments.fill_division`).
-/

set_option autoImplicit false
set_option relaxedAutoImplicit false

namespace Scriptorium

namespace Template

/-- The most levels of indentation that the statements of a template can have below it. -/
def levelLimit : Nat := indentLimit - 2

/-- Whether a template can be read and is made of safe expressions. -/
def IsSafe (template : List Char) : Prop :=
  ∃ body, readTemplate template = .ok body ∧
    ∀ s ∈ body, s.IsMadeOf Expr.IsSafe levelLimit loopLimit

/-- A safe template has a text, or fails in a way that is reported. -/
theorem yields_renderTemplate {template : List Char} (h : IsSafe (Text.unifyNewlines template))
    (arguments : List (String × String)) :
    Yields (fun _ ↦ True) (renderTemplate template arguments) := by
  obtain ⟨body, hread, hmade⟩ := h
  have hcheck := yields_checkTemplate hmade (by decide) (Nat.le_refl loopLimit)
  rw [renderTemplate, hread]
  refine hcheck.bind fun ready hready ↦ ?_
  exact (yields_renderChecked hready arguments).bind fun _ htext ↦ htext

end Template

namespace Arguments

open Template

/-- Code that has no tag or is a safe template is filled in, or it is malformed, or an argument is
missing, whatever arguments are given. -/
theorem fill_of_isSafe {code : String}
    (h : hasTag (unifyOpenings code.toList) = true →
      IsSafe (Text.unifyNewlines (unifyOpenings code.toList))) (a : Arguments) :
    (∃ text, a.fill code = .ok text) ∨
      (∃ line fault, a.fill code = .error (.badExpression line fault)) ∨
      ∃ cause, a.fill code = .error (.missingArgument cause) := by
  have hexpand : Yields (fun _ ↦ True) (expand code.toList a.entries) := by
    simp only [expand]
    split
    · rename_i htag
      exact yields_renderTemplate (h htag) a.entries
    · exact trivial
  rw [fill]
  cases houtcome : expand code.toList a.entries with
  | ok text => exact .inl ⟨_, rfl⟩
  | error failure =>
    rw [houtcome] at hexpand
    cases failure with
    | malformed line fault => exact .inr (.inl ⟨line, fault, rfl⟩)
    | absent cause => exact .inr (.inr ⟨cause, rfl⟩)
    | fault fault => exact hexpand.elim

/-- Code that prints a name with a filter on what stands for it, and another name if it is given. -/
def serverCode : String :=
  "\x7b\x7b $user | default('me') | upper \x7d\x7d" ++
    "\x7b% if port is defined %\x7d:\x7b\x7b $port \x7d\x7d\x7b% endif %\x7d"

/-- An argument for one of the names. -/
def serverArguments : Arguments := ⟨[("port", "80")], by decide⟩

/-- The name that has a default. -/
def defaultedUser : Expr :=
  .filter 1 (.name 1 "user") "default" (.mk [.const (.text ['m', 'e'])] [] none none)

/-- The statements of the code. -/
def serverBody : List Statement :=
  [.print (.filter 1 defaultedUser "upper" (.mk [] [] none none)),
    .branch [(.test 1 (.name 1 "port") "defined" (.mk [] [] none none),
      [.text [':'], .print (.name 1 "port")])] []]

/-- The statements are made of safe expressions. -/
theorem isMadeOf_serverBody :
    ∀ s ∈ serverBody, s.IsMadeOf Expr.IsSafe levelLimit loopLimit := by
  have huser : IsOrdinary "user" := ⟨by decide, by decide +kernel⟩
  have hport : IsOrdinary "port" := ⟨by decide, by decide +kernel⟩
  have hdefault : defaultedUser.HasKind IsOrdinary .filled :=
    .defaulted (Nat.zero_le 1) (.name huser) .literal (List.forall_mem_nil _)
  have hprint : (Statement.print (.filter 1 defaultedUser "upper" (.mk [] [] none none))).IsMadeOf
      Expr.IsSafe levelLimit loopLimit :=
    .print ⟨.ofText (.ofFilled (.filtered (by decide) (.ofText (.ofFilled hdefault)))),
      by decide, by decide⟩
  have htest : (Expr.test 1 (.name 1 "port") "defined" (.mk [] [] none none)).IsSafe .plain :=
    ⟨.tested (by decide) (.ofText (.name hport)), by decide, by decide⟩
  have hname : (Expr.name 1 "port").IsSafe .plain :=
    ⟨.ofText (.name hport), by decide, by decide⟩
  refine List.forall_mem_cons.mpr ⟨hprint, List.forall_mem_singleton.mpr ?_⟩
  exact .branch (List.forall_mem_singleton.mpr htest)
    (List.forall_mem_singleton.mpr (List.forall_mem_cons.mpr
      ⟨.text, List.forall_mem_singleton.mpr (.print hname)⟩)) (List.forall_mem_nil _)

/-- The code is read as the statements. -/
theorem readTemplate_serverCode :
    readTemplate (Text.unifyNewlines (unifyOpenings serverCode.toList)) = .ok serverBody := by
  cbv

/-- The code is a safe template. -/
theorem isSafe_serverCode : IsSafe (Text.unifyNewlines (unifyOpenings serverCode.toList)) :=
  ⟨serverBody, readTemplate_serverCode, isMadeOf_serverBody⟩

/-- The name that is not given has its default, and the one that is given is printed. -/
theorem fill_of_isSafe_server :
    IsSafe (Text.unifyNewlines (unifyOpenings serverCode.toList)) ∧
      serverArguments.fill serverCode = .ok "ME:80" ∧
      ((∃ text, serverArguments.fill serverCode = .ok text) ∨
        (∃ line fault, serverArguments.fill serverCode = .error (.badExpression line fault)) ∨
        ∃ cause, serverArguments.fill serverCode = .error (.missingArgument cause)) := by
  have hexpand : expand serverCode.toList [("port", "80")] = .ok "ME:80".toList := by
    decide +kernel
  have hfill : serverArguments.fill serverCode = .ok "ME:80" := by
    rw [fill, show serverArguments.entries = [("port", "80")] from rfl, hexpand]
    rfl
  exact ⟨isSafe_serverCode, hfill, fill_of_isSafe (fun _ ↦ isSafe_serverCode) serverArguments⟩

/-- A division by zero is no result, no wrong code and no missing argument. -/
theorem fill_division :
    Arguments.empty.fill "\x7b\x7b $1 / 0 \x7d\x7d" = .error (.operation .divisionByZero) ∧
      ¬ ((∃ text, Arguments.empty.fill "\x7b\x7b $1 / 0 \x7d\x7d" = .ok text) ∨
        (∃ line fault, Arguments.empty.fill "\x7b\x7b $1 / 0 \x7d\x7d" =
          .error (.badExpression line fault)) ∨
        ∃ cause, Arguments.empty.fill "\x7b\x7b $1 / 0 \x7d\x7d" =
          .error (.missingArgument cause)) := by
  have hfill : Arguments.empty.fill "\x7b\x7b $1 / 0 \x7d\x7d" =
      .error (.operation .divisionByZero) := by
    have hexpand : expand "\x7b\x7b $1 / 0 \x7d\x7d".toList [] =
        .error (.fault .divisionByZero) := by
      decide +kernel
    rw [fill, show Arguments.empty.entries = [] from rfl, hexpand]
    rfl
  refine ⟨hfill, ?_⟩
  rw [hfill]
  rintro (⟨text, htext⟩ | ⟨line, fault, hfault⟩ | ⟨cause, hcause⟩)
  · cases htext
  · cases hfault
  · cases hcause

end Arguments

end Scriptorium
