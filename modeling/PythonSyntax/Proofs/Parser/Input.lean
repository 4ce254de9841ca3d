import PythonSyntax.Proofs.Layout.Stream
import PythonSyntax.Proofs.Lexeme.Split
import PythonSyntax.Proofs.Parser.Reads

/-
The streams that parsers are run on.

The tokens of a program can be read, and so can those of an expression in a string, which weigh no
more than the text that they come from.
-/

namespace PythonSyntax.Parser

open Layout

theorem readable_of_stream {limit : Nat} {ts : List Token} (h : Stream limit ts) :
    Readable ts := by
  obtain ⟨body, e, rfl, he, hbody⟩ := h.endMarker
  have hindent := h.after_indent
  clear h
  induction body with
  | nil => exact .last he
  | cons t body ih =>
    rw [List.forall_mem_cons] at hbody
    refine .cons hbody.1 (fun ht => ?_) (ih hbody.2 fun pre u post hts hu => ?_)
    · obtain ⟨c, post, hpost, hc⟩ := hindent [] t (body ++ [e]) rfl ht
      show (current (body ++ [e])).kind.isContent = true
      rw [hpost]
      exact hc
    · exact hindent (t :: pre) u post (congrArg (t :: ·) hts) hu

theorem readable_of_tokenize {source : List Char} {maxBrackets : Nat} {ts : List Token}
    (h : tokenize source maxBrackets = .ok ts) : Readable ts :=
  readable_of_stream (stream_of_rest (rest_run rfl sound_start h))

/-- The tokens of an expression in a string: only the end marker is not in its text. -/
theorem readable_of_run {cfg : LayoutConfig} (hcfg : cfg.mode = .embedded) {s : Layout}
    {ls : List Lexeme} {ts : List Token} (hls : ∀ l ∈ ls, l.text ≠ [])
    (h : run cfg s ls = .ok ts) :
    Readable ts ∧ weight ts ≤ (ls.map Lexeme.text).flatten.length + 1 := by
  induction ls generalizing s ts with
  | nil =>
    simp only [Layout.run, Layout.finish, hcfg] at h
    split at h
    · cases h
    · cases h
      exact ⟨.last rfl, Nat.le_refl _⟩
  | cons l ls ih =>
    obtain ⟨tokens, s₁, rest, hstep, hrest, rfl⟩ := run_cons_inv h
    rw [List.forall_mem_cons] at hls
    obtain ⟨hread, hweight⟩ := ih hls.2 hrest
    rw [List.map_cons, List.flatten_cons, List.length_append]
    cases step_cases hstep with
    | blank => exact ⟨hread, by rw [List.nil_append]; omega⟩
    | joined => exact ⟨hread, by rw [List.nil_append]; omega⟩
    | emptyLine _ hfile => cases hcfg.symm.trans hfile
    | lineEnd _ hfile => cases hcfg.symm.trans hfile
    | @content _ kind span marks indents brackets hk hmarks =>
      rw [lineMarks, if_neg (by simp [hcfg])] at hmarks
      cases hmarks
      have hcontent := isContent_of_contentKind? hk
      have hne := List.length_pos_iff.mpr hls.1
      refine ⟨.cons (fun h => ?_) (fun h => ?_) hread, ?_⟩
      · cases h
        cases hcontent
      · cases h
        cases hcontent
      · simp only [List.nil_append, List.cons_append, weight_cons, Token.weight,
          String.length_ofList]
        omega

theorem readable_of_tokenizeEmbedded {text : List Char} {base maxBrackets : Nat} {ts : List Token}
    (h : tokenizeEmbedded text base maxBrackets = .ok ts) :
    Readable ts ∧ weight ts ≤ text.length + 1 := by
  have hrun := readable_of_run rfl (fun l hl => Lexeme.text_ne_nil hl) h
  rw [Lexeme.flatten_lexemes] at hrun
  exact hrun

/-! ## Streams are never refused for want of fuel -/

theorem fueled_content (cfg : LayoutConfig) (s : Layout) (kind : TokenKind) (text : List Char)
    (span : Span) : Fueled (content cfg s kind text span) := by
  refine .bind ?_ fun r _ => .bind ?_ fun _ _ => .ok
  · refine .ite (fun _ => ?_) fun _ => .ok
    exact .ite (fun _ => .ok) fun _ => .ite (fun _ => .error nofun) fun _ => .ok
  · refine .ite (fun _ => ?_) fun _ => .ok
    refine .ite (fun _ => .ite (fun _ => .error nofun) fun _ => .ok) fun _ => ?_
    refine .ite (fun _ => ?_) fun _ => .ok
    split
    · exact .error nofun
    · exact .ite (fun _ => .ok) fun _ => .error nofun

theorem strayCause_ne (c : Char) : strayCause c ≠ .outOfFuel := by
  unfold strayCause
  dsimp only
  split <;> exact nofun

theorem fueled_step (cfg : LayoutConfig) (s : Layout) (l : Lexeme) : Fueled (step cfg s l) := by
  refine .bind ?_ fun _ _ => .ok
  unfold feed
  split
  · exact .ite (fun _ => .ok) fun _ => .ite (fun _ => .ok) fun _ => .ok
  · exact .ok
  · exact .ok
  · exact .ok
  · refine .error ?_
    split <;> exact nofun
  · exact .error (strayCause_ne _)
  all_goals exact fueled_content _ _ _ _ _

theorem fueled_run (cfg : LayoutConfig) (s : Layout) (ls : List Lexeme) :
    Fueled (run cfg s ls) := by
  induction ls generalizing s with
  | nil => exact .ite (fun _ => .error nofun) fun _ => .ok
  | cons l ls ih => exact .bind (fueled_step cfg s l) fun r _ => .bind (ih r.2) fun _ _ => .ok

end PythonSyntax.Parser
