import PowerMonitor.LightUpload

/-! The regions of the scratch buffer that the upload handler passes on, and where it stores the
NUL. The one check of the length comes after its conversion to an `int`, and every call of the
loop asks for the whole body again, behind what it has received so far. -/
namespace PowerMonitor.UploadBounds
open LightUpload Pieces StaticFiles

/-- The region passed to `httpd_req_recv`, or the NUL stored, lies in the buffer. -/
def Addresses : Call → Prop
  | .recv call => call.offset + call.length ≤ scratchBufsize
  | .storeNul index => 0 ≤ index ∧ index < scratchBufsize
  | _ => True

/-- The handler addresses nothing outside the buffer. -/
def InBounds (o : Outcome) : Prop := ∀ call ∈ o.calls, Addresses call

variable {cJson : CJson} {req : Post} {answers : Answers} {scratch : Scratch}

/-- What comes after the NUL does not address the buffer. -/
theorem parse_and_respond_in_bounds (cJson : CJson) (buf : List UInt8) :
    InBounds (parseAndRespond cJson buf) := by
  intro call member
  rcases parse_and_respond_cases cJson buf with ⟨_, missing⟩ | ⟨red, green, blue, _, _, _, done⟩
  · rw [missing] at member
    obtain rfl := List.mem_singleton.mp member
    trivial
  · rw [done] at member
    simp only [List.mem_cons, List.not_mem_nil, or_false] at member
    rcases member with rfl | rfl | rfl | rfl <;> trivial

/-- A body that fits in the buffer: what counts is the regions of the receive loop. -/
private theorem in_bounds_of_short (short : req.contentLen.toNat < scratchBufsize) :
    InBounds (lightBrightnessPostHandler cJson req answers scratch) ↔
      ∀ i, ∀ before ∈ movedBefore req.contentLen.toNat req.contentLen.toNat answers 0 i,
        before + req.contentLen.toNat ≤ scratchBufsize := by
  have regions : (∀ call ∈ (receive req.body.length answers req.body 0 scratch).recvs,
      call.offset + call.length ≤ scratchBufsize) ↔
      ∀ i, ∀ before ∈ movedBefore req.body.length req.body.length answers 0 i,
        before + req.body.length ≤ scratchBufsize :=
    receive_regions_iff (Nat.zero_add _) fun offset length => offset + length ≤ scratchBufsize
  rw [← req.complete, ← regions]
  cases ended : (receive req.body.length answers req.body 0 scratch).failed with
  | true =>
    rw [handler_failed short ended]
    simp [InBounds, Addresses, or_imp, forall_and]
  | false =>
    have rest := parse_and_respond_in_bounds cJson (req.body ++ [0])
    have nul : req.body.length < scratchBufsize := by rw [req.complete]; exact short
    rw [handler_received short ended]
    unfold InBounds at rest ⊢
    simp only [Outcome.after, List.mem_append, List.mem_map, List.mem_singleton, or_imp,
      forall_and]
    simp only [forall_exists_index, and_imp, forall_apply_eq_imp_iff₂, forall_eq, Addresses]
    constructor
    · exact fun all => all.1.1
    · exact fun all => ⟨⟨all, by omega⟩, rest⟩

/-- The handler addresses nothing outside the buffer exactly when the content length is below
2^31 and it is either refused or, at each call of the receive loop, fits behind the bytes
received before. -/
theorem upload_in_bounds_iff (cJson : CJson) (req : Post) (answers : Answers) (scratch : Scratch) :
    InBounds (lightBrightnessPostHandler cJson req answers scratch) ↔
      req.contentLen.toNat < 2 ^ 31 ∧ (scratchBufsize ≤ req.contentLen.toNat ∨
        ∀ i, ∀ before ∈ movedBefore req.contentLen.toNat req.contentLen.toNat answers 0 i,
          before + req.contentLen.toNat ≤ scratchBufsize) := by
  by_cases large : 2 ^ 31 ≤ req.contentLen.toNat
  · have negative := req.total_len_neg large
    refine iff_of_false (fun inside => ?_) (fun both => by omega)
    have nul := inside (.storeNul req.totalLen) (by rw [handler_negative large]; simp)
    exact absurd nul.1 (by omega)
  have small : req.contentLen.toNat < 2 ^ 31 := by omega
  by_cases long : scratchBufsize ≤ req.contentLen.toNat
  · refine iff_of_true ?_ ⟨small, Or.inl long⟩
    rw [handler_too_long small long]
    simp [InBounds, Addresses]
  · rw [in_bounds_of_short (by omega)]
    exact ⟨fun regions => ⟨small, Or.inr regions⟩, fun both => both.2.resolve_left long⟩

/-- A content length of 2^31 passes the check as a negative one, and the NUL is stored at
`buf[-2147483648]`. -/
theorem negative_length_strays :
    ¬ ∀ (cJson : CJson) (req : Post) (answers : Answers) (scratch : Scratch),
      InBounds (lightBrightnessPostHandler cJson req answers scratch) := by
  intro inside
  have large : 2 ^ 31 ≤ (2147483648 : UInt32).toNat := by decide
  let req : Post := ⟨2147483648, List.replicate (2147483648 : UInt32).toNat 0,
    List.length_replicate⟩
  have negative := req.total_len_neg large
  have nul := inside pageJson req (fun _ => none) (fun _ _ => 0) (.storeNul req.totalLen)
    (by rw [handler_negative large]; exact List.mem_singleton_self _)
  exact absurd nul.1 (by omega)

end PowerMonitor.UploadBounds
