/-
The file descriptors of the transports: constructors, destructors, `make_can_interface`.

Both transports get a descriptor in the first call of their constructor, and every later
call of it may fail. They are held by `std::shared_ptr`s, and the destructor runs with the
last of them, also when `make_can_interface` lets an exception pass. A process may build
transports, share and drop them and use them in any order, and each system call may fail.
Through all of that the descriptors that are open are those that were before and one for
each transport that is alive, and no call is made on another (`descriptors_kept`).
-/
import RobstrideDriver.Lib.Ownership
import RobstrideDriver.MotorIdFilter

set_option autoImplicit false

open CppArith

namespace Robstride

/-! ## System calls -/

/-- `struct termios2`. -/
structure Termios2 where
  c_iflag : UInt32 := 0
  c_oflag : UInt32 := 0
  c_cflag : UInt32 := 0
  c_lflag : UInt32 := 0
  c_line : UInt8 := 0
  c_cc : List UInt8 := List.replicate 19 0
  c_ispeed : UInt32 := 0
  c_ospeed : UInt32 := 0
deriving DecidableEq, Repr

def CS8 : UInt32 := 0x30
def CREAD : UInt32 := 0x80
def CLOCAL : UInt32 := 0x800
def BOTHER : UInt32 := 0x1000
def VTIME : ℕ := 5
def VMIN : ℕ := 6

/-- The calls, with what they are made on. Reading `errno` is one of them. -/
inductive Syscall where
  | open_device (device : String)
  | socket
  | tcgets2 (fd : ℤ)
  | tcsets2 (fd : ℤ) (tio : Termios2)
  | tcflsh (fd : ℤ)
  | siocgifindex (fd : ℤ) (ifr_name : List UInt8)
  | bind (fd : ℤ) (can_ifindex : ℤ)
  | setsockopt (fd : ℤ) (filter : SocketCanInterface.CanFilter)
  /-- `write`, `select` and `read`. -/
  | transfer (fd : ℤ)
  | close (fd : ℤ)
  | errno
deriving DecidableEq, Repr

/-- What a call returns, and what it writes. -/
structure SyscallReply where
  ret : ℤ
  tio : Termios2 := {}
  ifr_ifindex : ℤ := 0
deriving DecidableEq, Repr

/-- A stretch of code that makes system calls. -/
abbrev Syscalls (α : Type) := Dialogue Syscall SyscallReply Exception α

/-- A descriptor is never negative. -/
abbrev Descriptor := { fd : ℤ // 0 ≤ fd }

def throw_errno {α : Type} (what : String) : Syscalls α := do
  let errno ← .request .errno
  .fail (.system_error errno.ret.toNat what)

namespace AtSerialCanInterface

/-- The settings of the constructor. -/
def raw_settings (baud_rate : ℤ) (tio : Termios2) : Termios2 :=
  { tio with
    c_iflag := 0
    c_oflag := 0
    c_lflag := 0
    c_cflag := CS8 ||| CREAD ||| CLOCAL ||| BOTHER
    c_ispeed := UInt32.ofInt baud_rate
    c_ospeed := UInt32.ofInt baud_rate
    c_cc := (tio.c_cc.set VMIN 0).set VTIME 0 }

/-- `AtSerialCanInterface::AtSerialCanInterface`. -/
def construct (device : String) (baud_rate : ℤ) : Syscalls Descriptor := do
  let fd ← .request (.open_device device)
  if h : fd.ret < 0 then
    throw_errno ("robstride: failed to open serial device '" ++ device ++ "'")
  else
    let got ← .request (.tcgets2 fd.ret)
    if got.ret < 0 then
      let _ ← .request (.close fd.ret)
      throw_errno ("robstride: TCGETS2 failed on '" ++ device ++ "'")
    else
      let set ← .request (.tcsets2 fd.ret (raw_settings baud_rate got.tio))
      if set.ret < 0 then
        let _ ← .request (.close fd.ret)
        throw_errno ("robstride: TCSETS2 failed on '" ++ device ++ "'")
      else
        -- what this returns is not looked at
        let _ ← .request (.tcflsh fd.ret)
        return ⟨fd.ret, not_lt.mp h⟩

end AtSerialCanInterface

namespace SocketCanInterface

/-- What `strncpy` leaves of a name: its bytes up to a NUL, and no more than fit. -/
def ifr_name (interface_name : String) : List UInt8 :=
  (interface_name.toUTF8.toList.takeWhile (· ≠ 0)).take 15

/-- `SocketCanInterface::SocketCanInterface`. -/
def construct (interface_name : String) : Syscalls Descriptor := do
  let fd ← .request .socket
  if h : fd.ret < 0 then
    throw_errno "robstride: failed to open CAN socket"
  else
    let ifr ← .request (.siocgifindex fd.ret (ifr_name interface_name))
    if ifr.ret < 0 then
      let _ ← .request (.close fd.ret)
      throw_errno ("robstride: unknown CAN interface '" ++ interface_name ++ "'")
    else
      let bound ← .request (.bind fd.ret ifr.ifr_ifindex)
      if bound.ret < 0 then
        let _ ← .request (.close fd.ret)
        throw_errno ("robstride: failed to bind CAN socket to '" ++ interface_name ++ "'")
      else
        return ⟨fd.ret, not_lt.mp h⟩

/-- `set_motor_id_filter`, by its system call. -/
def request_motor_id_filter (fd : ℤ) (motor_id : UInt8) : Syscalls Unit := do
  let set ← .request (.setsockopt fd (motor_id_filter motor_id))
  if set.ret < 0 then
    throw_errno "robstride: failed to set CAN filter"
  else
    return ()

/-- The same call, and the reading of `errno`, on a kernel that answers in kind. -/
def setsockopt_calls {σ : Type*} (kernel : FilterKernel σ) :
    Dialogue.Handler Syscall SyscallReply Exception (σ × ℕ)
  | .setsockopt _ filter, (s, errno) =>
    match kernel.setsockopt filter s with
    | (.failed errno, s) => (.ok { ret := -1 }, s, errno)
    | (.ok, s) => (.ok { ret := 0 }, s, errno)
  | .errno, (s, errno) => (.ok { ret := errno }, s, errno)
  | _, s => (.ok { ret := 0 }, s)

/-- On a kernel of sockets these calls do what `set_motor_id_filter` does there, so the descriptors
are those of the transport that the other modules are about. -/
theorem request_motor_id_filter_eq {σ : Type*} (kernel : FilterKernel σ) (fd : ℤ)
    (motor_id : UInt8) (s : σ) (errno : ℕ) :
    ∃ errno', Dialogue.run (setsockopt_calls kernel) (request_motor_id_filter fd motor_id)
        (s, errno)
      = ((set_motor_id_filter kernel motor_id s).1, (set_motor_id_filter kernel motor_id s).2,
          errno') := by
  unfold request_motor_id_filter set_motor_id_filter
  rw [Dialogue.run_bind, Dialogue.run_request, setsockopt_calls]
  rcases kernel.setsockopt (motor_id_filter motor_id) s with ⟨failed | ok, s'⟩
  · exact ⟨failed, rfl⟩
  · exact ⟨errno, rfl⟩

end SocketCanInterface

/-! ## The objects -/

/-- A transport, as far as its members matter here. -/
inductive Transport where
  | at_serial (fd_ : Descriptor) (device_ : String)
  | socket_can (socket_fd_ : Descriptor) (interface_name_ : String)
deriving DecidableEq

def Transport.fd : Transport → ℤ
  | at_serial fd _ => fd.1
  | socket_can fd _ => fd.1

/-- The destructors, which are the same. -/
def Transport.destruct (t : Transport) : Syscalls Unit :=
  if t.fd ≥ 0 then do
    let _ ← .request (.close t.fd)
    return ()
  else
    return ()

namespace tracking_capture

/-- `interface_name.starts_with("/dev/")`. -/
def is_device (interface_name : String) : Bool :=
  "/dev/".toList.isPrefixOf interface_name.toList

def make_can_interface (interface_name : String) (motor_id : UInt8) : Syscalls Transport :=
  if is_device interface_name then do
    let fd ← AtSerialCanInterface.construct interface_name 921600
    return .at_serial fd interface_name
  else do
    let fd ← SocketCanInterface.construct interface_name
    let socket_can := Transport.socket_can fd interface_name
    -- an exception takes the `shared_ptr` with it
    Dialogue.guarded (do
      SocketCanInterface.request_motor_id_filter fd.1 motor_id
      return socket_can) socket_can.destruct

end tracking_capture

/-! ## A process -/

/-- A transport that is alive, and how many `shared_ptr`s hold it besides one. -/
structure Owner where
  transport : Transport
  others : ℕ := 0
deriving DecidableEq

/-- What a process does with transports; it names them by their place. To hand an owner over to
someone else changes no count and calls nothing, so it is no action here: the transport has as many
owners as before. -/
inductive HostAction where
  | at_serial (device : String) (baud_rate : ℤ)
  | socket_can (interface_name : String)
  | make_can_interface (interface_name : String) (motor_id : UInt8)
  | share (i : ℕ)
  | drop (i : ℕ)
  | set_motor_id_filter (i : ℕ) (motor_id : UInt8)
  | transfer (i : ℕ)
deriving DecidableEq, Repr

/-- An action, and who is alive after it if it returns. -/
def HostAction.program (owners : List Owner) : HostAction → Syscalls (List Owner)
  | at_serial device baud_rate => do
    let fd ← AtSerialCanInterface.construct device baud_rate
    return owners ++ [⟨.at_serial fd device, 0⟩]
  | socket_can interface_name => do
    let fd ← SocketCanInterface.construct interface_name
    return owners ++ [⟨.socket_can fd interface_name, 0⟩]
  | make_can_interface interface_name motor_id => do
    let transport ← tracking_capture.make_can_interface interface_name motor_id
    return owners ++ [⟨transport, 0⟩]
  | share i => return owners.modify i fun o => { o with others := o.others + 1 }
  | drop i =>
    match owners[i]? with
    | some ⟨transport, 0⟩ => do
      transport.destruct
      return owners.eraseIdx i
    | some ⟨_, _ + 1⟩ => return owners.modify i fun o => { o with others := o.others - 1 }
    | none => return owners
  | set_motor_id_filter i motor_id =>
    match owners[i]? with
    | some ⟨.socket_can fd _, _⟩ => do
      SocketCanInterface.request_motor_id_filter fd.1 motor_id
      return owners
    | _ => return owners
  | transfer i =>
    match owners[i]? with
    | some o => do
      let _ ← .request (.transfer o.transport.fd)
      return owners
    | none => return owners

/-- What the calls do to descriptors. -/
def fds : Dialogue.Resources Syscall SyscallReply ℤ where
  acquired
    | .open_device _, x => if x.ret < 0 then [] else [x.ret]
    | .socket, x => if x.ret < 0 then [] else [x.ret]
    | _, _ => []
  used
    | .tcgets2 fd => [fd]
    | .tcsets2 fd _ => [fd]
    | .tcflsh fd => [fd]
    | .siocgifindex fd _ => [fd]
    | .bind fd _ => [fd]
    | .setsockopt fd _ => [fd]
    | .transfer fd => [fd]
    | _ => []
  released
    | .close fd => some fd
    | _ => none

/-- A process and its kernel. -/
structure Process (σ : Type*) where
  owners : List Owner
  kernel : Dialogue.Ledger σ ℤ

/-- One action. An exception leaves the process as it is. -/
def Process.act {σ : Type*} (kernel : Syscall → List ℤ → σ → SyscallReply × σ) (p : Process σ)
    (a : HostAction) : Process σ :=
  match Dialogue.run (Dialogue.ledger fds kernel) (a.program p.owners) p.kernel with
  | (.ok owners, s) => ⟨owners, s⟩
  | (.error _, s) => { p with kernel := s }

def Process.run {σ : Type*} (kernel : Syscall → List ℤ → σ → SyscallReply × σ) (p : Process σ)
    (actions : List HostAction) : Process σ :=
  actions.foldl (Process.act kernel) p

/-! ## Who holds what -/

section Keeps

open Dialogue

variable {α : Type} {post : α → List ℤ} {held : List ℤ}

/-- The descriptors of the living. -/
def held_by (owners : List Owner) : List ℤ := owners.map fun o => o.transport.fd

/-- Throwing takes nothing and gives nothing back. -/
theorem throw_errno_keeps (what : String) :
    Keeps fds post held held (throw_errno what : Syscalls α) :=
  (Keeps.request ⟨by simp [fds], by simp [fds]⟩).bind fun _ => .fail _ (List.Perm.refl _)

/-- A call on a descriptor that one holds is permitted, and one holds it afterwards. -/
theorem call_keeps {lost : List ℤ} {fd : ℤ} {r : Syscall} (hused : fds.used r = [fd])
    (hacquired : ∀ x, fds.acquired r x = []) (hreleased : fds.released r = none) (hfd : fd ∈ held)
    {k : SyscallReply → Syscalls α} (hk : ∀ x, Keeps fds post lost held (k x)) :
    Keeps fds post lost held (Dialogue.request r >>= k) := by
  refine .ask ⟨?_, ?_⟩ ?_
  · simpa [hused] using hfd
  · simp [hreleased]
  · intro x
    have hsame : fds.after r x held = held := by
      simp [Resources.after, hacquired, hreleased]
    rw [hsame]
    exact hk x

/-- Closing it, and throwing: what is left is what the caller held besides. -/
theorem close_throw_keeps (fd : ℤ) (what : String) :
    Keeps fds post held (fd :: held)
      (do let _ ← Dialogue.request (.close fd); throw_errno what : Syscalls α) := by
  refine .ask ⟨?_, ?_⟩ ?_
  · simp [fds]
  · simp [fds]
  · intro x
    have hrest : fds.after (.close fd) x (fd :: held) = held := by
      simp [Resources.after, fds]
    rw [hrest]
    exact throw_errno_keeps what

/-- Getting one, or none: on a negative return there is nothing to give back. -/
theorem acquire_keeps {lost : List ℤ} {r : Syscall} (hused : fds.used r = [])
    (hacquired : ∀ x, fds.acquired r x = if x.ret < 0 then [] else [x.ret])
    (hreleased : fds.released r = none) {k : SyscallReply → Syscalls α}
    (hfail : ∀ x, x.ret < 0 → Keeps fds post lost held (k x))
    (hk : ∀ x, 0 ≤ x.ret → Keeps fds post lost (x.ret :: held) (k x)) :
    Keeps fds post lost held (Dialogue.request r >>= k) := by
  refine .ask ⟨?_, ?_⟩ ?_
  · simp [hused]
  · simp [hreleased]
  · intro x
    by_cases hx : x.ret < 0
    · have hsame : fds.after r x held = held := by
        simp [Resources.after, hacquired, hreleased, hx]
      rw [hsame]
      exact hfail x hx
    · have hmore : fds.after r x held = x.ret :: held := by
        simp [Resources.after, hacquired, hreleased, hx]
      rw [hmore]
      exact hk x (not_lt.mp hx)

/-- A constructor that fails leaves what there was, and one that returns has one descriptor more:
each of its calls that can fail closes it before it throws. -/
theorem construct_at_serial_keeps (device : String) (baud_rate : ℤ) :
    Keeps fds (fun fd : Descriptor => fd.1 :: held) held held
      (AtSerialCanInterface.construct device baud_rate) := by
  unfold AtSerialCanInterface.construct
  apply acquire_keeps rfl (fun _ => rfl) rfl
  · intro fd hfd
    rw [dif_pos hfd]
    exact throw_errno_keeps _
  · intro fd hfd
    rw [dif_neg (not_lt.mpr hfd)]
    apply call_keeps rfl (fun _ => rfl) rfl List.mem_cons_self
    intro got
    -- from here on every failure closes the descriptor before it throws
    split
    · exact close_throw_keeps fd.ret _
    apply call_keeps rfl (fun _ => rfl) rfl List.mem_cons_self
    intro set
    split
    · exact close_throw_keeps fd.ret _
    apply call_keeps rfl (fun _ => rfl) rfl List.mem_cons_self
    intro _
    exact .done (List.Perm.refl _)

/-- The same of the other transport, with its three calls that can fail. -/
theorem construct_socket_can_keeps (interface_name : String) :
    Keeps fds (fun fd : Descriptor => fd.1 :: held) held held
      (SocketCanInterface.construct interface_name) := by
  unfold SocketCanInterface.construct
  apply acquire_keeps rfl (fun _ => rfl) rfl
  · intro fd hfd
    rw [dif_pos hfd]
    exact throw_errno_keeps _
  · intro fd hfd
    rw [dif_neg (not_lt.mpr hfd)]
    apply call_keeps rfl (fun _ => rfl) rfl List.mem_cons_self
    intro ifr
    split
    · exact close_throw_keeps fd.ret _
    apply call_keeps rfl (fun _ => rfl) rfl List.mem_cons_self
    intro bound
    split
    · exact close_throw_keeps fd.ret _
    exact .done (List.Perm.refl _)

/-- Setting the filter is a call on the socket, which it has afterwards whether the call fails or
not. -/
theorem request_motor_id_filter_keeps {fd : ℤ} (hfd : fd ∈ held) (motor_id : UInt8) :
    Keeps fds (fun _ => held) held held
      (SocketCanInterface.request_motor_id_filter fd motor_id) := by
  unfold SocketCanInterface.request_motor_id_filter
  apply call_keeps rfl (fun _ => rfl) rfl hfd
  intro set
  split
  · exact throw_errno_keeps _
  · exact .done (List.Perm.refl _)

/-- The destructor gives the descriptor back, which was its own. -/
theorem destruct_keeps {lost : List ℤ} (t : Transport) (ht : t.fd ∈ held) :
    Keeps fds (fun _ => held.erase t.fd) lost held t.destruct := by
  have hfd : t.fd ≥ 0 := by
    cases t with
    | at_serial fd _ => exact fd.2
    | socket_can fd _ => exact fd.2
  unfold Transport.destruct
  rw [if_pos hfd]
  refine .ask ⟨?_, ?_⟩ ?_
  · simp [fds]
  · simpa [fds] using ht
  · intro x
    exact .done (List.Perm.refl _)

/-- An exception of the filter takes the socket with it, as the only owner of the transport is gone
then. -/
theorem make_can_interface_keeps (interface_name : String) (motor_id : UInt8) :
    Keeps fds (fun t : Transport => t.fd :: held) held held
      (tracking_capture.make_can_interface interface_name motor_id) := by
  unfold tracking_capture.make_can_interface
  split
  · refine (construct_at_serial_keeps interface_name 921600).bind ?_
    intro fd
    exact .done (List.Perm.refl _)
  · refine (construct_socket_can_keeps interface_name).bind ?_
    intro fd
    -- whether the filter throws or not, the socket is still held
    have hfilter : Keeps fds (fun _ => fd.1 :: held) (fd.1 :: held) (fd.1 :: held)
        (SocketCanInterface.request_motor_id_filter fd.1 motor_id) :=
      request_motor_id_filter_keeps List.mem_cons_self motor_id
    have hbuild : Keeps fds (fun t : Transport => t.fd :: held) (fd.1 :: held) (fd.1 :: held)
        (do
          SocketCanInterface.request_motor_id_filter fd.1 motor_id
          return Transport.socket_can fd interface_name) :=
      hfilter.bind fun _ => .done (List.Perm.refl _)
    have hdestruct : Keeps fds (fun _ => (fd.1 :: held).erase fd.1) held (fd.1 :: held)
        (Transport.socket_can fd interface_name).destruct :=
      destruct_keeps (.socket_can fd interface_name) List.mem_cons_self
    rw [List.erase_cons_head] at hdestruct
    exact hbuild.guarded hdestruct

/-- A new transport adds its descriptor to those of the living. -/
theorem held_by_concat (owners : List Owner) (t : Transport) :
    (t.fd :: held_by owners).Perm (held_by (owners ++ [⟨t, 0⟩])) := by
  rw [held_by, held_by, List.map_append]
  exact (List.perm_append_singleton _ _).symm

/-- Counting owners changes no descriptor. -/
theorem held_by_modify (f : Owner → Owner) (hf : ∀ o, (f o).transport = o.transport)
    (owners : List Owner) (i : ℕ) : (held_by owners).Perm (held_by (owners.modify i f)) := by
  induction owners generalizing i with
  | nil => simp [held_by]
  | cons o owners ih =>
    cases i with
    | zero => simp [held_by, hf]
    | succ i =>
      rw [List.modify_succ_cons]
      exact (ih i).cons _

/-- The last owner takes the descriptor of its transport out of those of the living. -/
theorem held_by_erase {owners : List Owner} {i : ℕ} {o : Owner} (ho : owners[i]? = some o) :
    o.transport.fd ∈ held_by owners ∧
      ((held_by owners).erase o.transport.fd).Perm (held_by (owners.eraseIdx i)) := by
  obtain ⟨hi, rfl⟩ := List.getElem?_eq_some_iff.mp ho
  refine ⟨List.mem_map_of_mem (List.getElem_mem hi), ?_⟩
  have hperm := (List.getElem_cons_eraseIdx_perm hi).map fun o => o.transport.fd
  have herase := hperm.symm.erase (owners[i]).transport.fd
  rwa [List.map_cons, List.erase_cons_head] at herase

/-- **One action**: what it opens is held by a transport that is alive after it, and what it closes
by none. -/
theorem HostAction.program_keeps (owners : List Owner) (a : HostAction) :
    Keeps fds held_by (held_by owners) (held_by owners) (a.program owners) := by
  cases a with
  | at_serial device baud_rate =>
    refine (construct_at_serial_keeps device baud_rate).bind ?_
    intro fd
    exact .done (held_by_concat owners (.at_serial fd device))
  | socket_can interface_name =>
    refine (construct_socket_can_keeps interface_name).bind ?_
    intro fd
    exact .done (held_by_concat owners (.socket_can fd interface_name))
  | make_can_interface interface_name motor_id =>
    refine (make_can_interface_keeps interface_name motor_id).bind ?_
    intro transport
    exact .done (held_by_concat owners transport)
  | share i =>
    exact .done (held_by_modify (fun o => { o with others := o.others + 1 }) (fun _ => rfl)
      owners i)
  | drop i =>
    rw [HostAction.program]
    split
    · -- the last owner
      rename_i transport ho
      obtain ⟨hmem, herase⟩ := held_by_erase ho
      exact (destruct_keeps transport hmem).bind fun _ => .done herase
    · exact .done (held_by_modify (fun o => { o with others := o.others - 1 }) (fun _ => rfl)
        owners i)
    · exact .done (List.Perm.refl _)
  | set_motor_id_filter i motor_id =>
    rw [HostAction.program]
    split
    · rename_i fd name others ho
      obtain ⟨hmem, -⟩ := held_by_erase ho
      exact (request_motor_id_filter_keeps hmem motor_id).bind fun _ => .done (List.Perm.refl _)
    · exact .done (List.Perm.refl _)
  | transfer i =>
    rw [HostAction.program]
    split
    · rename_i o ho
      obtain ⟨hmem, -⟩ := held_by_erase ho
      exact call_keeps rfl (fun _ => rfl) rfl hmem fun _ => .done (List.Perm.refl _)
    · exact .done (List.Perm.refl _)

/-! ## Runs -/

variable {σ : Type*} {kernel : Syscall → List ℤ → σ → SyscallReply × σ} {before : List ℤ}
  {p : Process σ}

/-- What is open is what was before, and what the living hold. -/
def Process.Kept (before : List ℤ) (p : Process σ) : Prop :=
  Balanced before (held_by p.owners) p.kernel

/-- An action keeps the account, whether it returns or throws. -/
theorem Process.Kept.act (hkernel : Fresh fds kernel) (h : p.Kept before) (a : HostAction) :
    (p.act kernel a).Kept before := by
  have hrun := (a.program_keeps p.owners).run hkernel h
  rw [Process.act]
  rcases hresult : Dialogue.run (ledger fds kernel) (a.program p.owners) p.kernel with ⟨e | os, s⟩
  · rw [hresult] at hrun
    exact hrun
  · rw [hresult] at hrun
    exact hrun

/-- **Descriptors.** Whatever a process does with its transports and whichever calls fail, the
descriptors that are open are, each once, those that were before and those of the
transports that are alive, and no call was ever made on one that was not open. -/
theorem descriptors_kept (hkernel : Fresh fds kernel) {world : σ} (hbefore : before.Nodup)
    (actions : List HostAction) :
    (Process.run kernel ⟨[], ⟨world, before, false⟩⟩ actions).Kept before := by
  have hstart : (⟨[], ⟨world, before, false⟩⟩ : Process σ).Kept before :=
    ⟨List.Perm.refl _, hbefore, rfl⟩
  unfold Process.run
  generalize (⟨[], ⟨world, before, false⟩⟩ : Process σ) = p at hstart
  induction actions generalizing p with
  | nil => exact hstart
  | cons a actions ih => exact ih _ (hstart.act hkernel a)

end Keeps

def lowest (table : List ℤ) : ℤ :=
  (((List.range (table.length + 1)).map fun n => (n : ℤ)).find? (· ∉ table)).getD (-1)

/-- A kernel that gives the lowest descriptor that is free; the state says which of the next
calls fail. -/
def lowest_free (r : Syscall) (table : List ℤ) (fails : List Bool) : SyscallReply × List Bool :=
  let ret : ℤ :=
    match r with
    | .open_device _ => lowest table
    | .socket => lowest table
    | _ => 0
  ({ ret := if fails.headD false then -1 else ret }, fails.tail)

/-- The lowest free number is free, or there is none. -/
theorem lowest_new (table : List ℤ) : lowest table < 0 ∨ lowest table ∉ table := by
  unfold lowest
  cases hfind : ((List.range (table.length + 1)).map fun n => (n : ℤ)).find? (· ∉ table) with
  | none => exact .inl (by decide)
  | some n => exact .inr (by simpa using List.find?_some hfind)

/-- This kernel hands out descriptors that are not in use. -/
theorem lowest_free_fresh : Dialogue.Fresh fds lowest_free := by
  intro r table fails hnodup
  have hnew : ∀ ret : ℤ, (ret < 0 ∨ ret ∉ table) →
      ((if ret < 0 then [] else [ret]) ++ table).Nodup := by
    intro ret hret
    by_cases hfail : ret < 0
    · rw [if_pos hfail]
      exact hnodup
    · rw [if_neg hfail]
      exact List.nodup_cons.mpr ⟨hret.resolve_left hfail, hnodup⟩
  have hret : (if fails.headD false then -1 else lowest table) < 0 ∨
      (if fails.headD false then -1 else lowest table) ∉ table := by
    by_cases hfail : fails.headD false
    · rw [if_pos hfail]
      exact .inl (by decide)
    · rw [if_neg hfail]
      exact lowest_new table
  cases r with
  | open_device device => exact hnew _ hret
  | socket => exact hnew _ hret
  | _ => exact hnodup

/-- A kernel that hands out the lowest free number, as POSIX asks, and a `setsockopt` that fails:
the socket opened for the filter is closed again. -/
theorem descriptors_kept_lowest :
    (Process.run lowest_free ⟨[], ⟨[false, false, false, true], [0, 1, 2], false⟩⟩
      [.make_can_interface "can0" 1, .at_serial "/dev/ttyUSB0" 921600, .share 0, .drop 0,
        .transfer 0]).Kept [0, 1, 2] :=
  descriptors_kept lowest_free_fresh (by decide) _

example : (Process.run lowest_free ⟨[], ⟨[false, false, false, true], [0, 1, 2], false⟩⟩
    [.make_can_interface "can0" 1, .at_serial "/dev/ttyUSB0" 921600, .share 0, .drop 0,
      .transfer 0]).kernel.table = [3, 0, 1, 2] := by decide +kernel

end Robstride
