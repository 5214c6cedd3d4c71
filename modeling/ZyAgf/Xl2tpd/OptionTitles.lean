import ZyAgf.Xl2tpd.Options

set_option autoImplicit false

namespace ZyAgf.Xl2tpd.Options

-- Which kind of item it is, and the name it has, which no option can change.
inductive Title where
  | global
  | lns (entname : CString)
  | lac (entname : CString)

def title : Item → Title
  | .global _ => .global
  | .lns n => .lns n.entname
  | .lac l => .lac l.entname

def Keeps (p : Parser) (r : Done) : Prop := title r.2.item = title p.item

variable (word value : CString) (p : Parser)

def Titled {α : Type} (field : Item → Option (α → Item)) : Prop := ∀ item store v, field item = some store →
    title (store v) = title item

theorem setInt_keeps (store : Int → Item) (same : ∀ v, title (store v) = title p.item) : Keeps p
    (setInt word value store p) := by
  unfold setInt
  split
  · rfl
  · exact same _

theorem setIp_keeps (env : Surroundings) (store : Nat → Item) (same : ∀ v, title (store v) = title p.item) : Keeps p
    (setIp env value store p) := by
  unfold setIp
  split
  · exact same _
  · rfl

theorem booleanOption_keeps (field : Item → Option (Bool → Item)) (titled : Titled field) : Keeps p
    (booleanOption word value field p) := by
  unfold booleanOption setBoolean
  split
  · rename_i store found
    split
    · exact titled p.item store _ found
    · rfl
  · rfl

theorem numberOption_keeps (field : Item → Option (Int → Item)) (titled : Titled field) : Keeps p
    (numberOption word value field p) := by
  unfold numberOption
  split
  · rename_i store found
    exact setInt_keeps word value p store fun v => titled p.item store v found
  · rfl

theorem stringOption_keeps (field : Item → Option (CString → Item)) (titled : Titled field) : Keeps p
    (stringOption word value field p) := by
  unfold stringOption
  split
  · rename_i store found
    exact titled p.item store _ found
  · rfl

theorem rangeOption_keeps (env : Surroundings) (ranges : List IpRange) (store : List IpRange → Item)
    (same : ∀ v, title (store v) = title p.item) : Keeps p (rangeOption env word value ranges store p) := by
  unfold rangeOption
  split
  · exact same _
  · exact same _

theorem guarded_keeps {wrong : Prop} [Decidable wrong] (message : CString) {r : Done} (rest : Keeps p r) :
    Keeps p (if wrong then refuse message p else r) := by
  split
  · rfl
  · exact rest

theorem rwsOption_keeps (callRws tunnelRws : Int → Item) (call : ∀ v, title (callRws v) = title p.item)
    (tunnel : ∀ v, title (tunnelRws v) = title p.item) : Keeps p (rwsOption word value callRws tunnelRws p) := by
  unfold rwsOption
  split
  · exact setInt_keeps word value p callRws call
  · split
    · dsimp only
      split
      · exact setInt_keeps word value p tunnelRws tunnel
      · exact setInt_keeps word value p tunnelRws tunnel
    · rfl

theorem call_keeps (env : Surroundings) (inDefault : Bool) (handler : Handler) : Keeps p
    (handler.call env word value inDefault p) := by
  cases handler with
  | iprange =>
    show Keeps p (setIprange env word value p)
    unfold setIprange
    split
    · rename_i n open'
      exact rangeOption_keeps word value p env _ _ fun v => by rw [open']; rfl
    · rfl
  | localiprange =>
    show Keeps p (setLocaliprange env word value p)
    unfold setLocaliprange
    split
    · rename_i n open'
      exact guarded_keeps p _ (rangeOption_keeps word value p env _ _ fun v => by rw [open']; rfl)
    · rfl
  | lac =>
    show Keeps p (setLac env word value p)
    unfold setLac
    split
    · rename_i n open'
      exact rangeOption_keeps word value p env _ _ fun v => by rw [open']; rfl
    · rfl
  | rws =>
    show Keeps p (setRws word value p)
    unfold setRws
    refine guarded_keeps p _ ?_
    split
    · rename_i l open'
      exact rwsOption_keeps word value p _ _ (fun v => by rw [open']; rfl) (fun v => by rw [open']; rfl)
    · rename_i n open'
      exact rwsOption_keeps word value p _ _ (fun v => by rw [open']; rfl) (fun v => by rw [open']; rfl)
    · rfl
  | listenaddr =>
    show Keeps p (setListenaddr env word value p)
    unfold setListenaddr
    split
    · rename_i g open'
      exact setIp_keeps value p env _ fun v => by rw [open']; rfl
    · rfl
  | remoteaddr =>
    show Keeps p (setRemoteaddr env word value p)
    unfold setRemoteaddr
    split
    · rename_i l open'
      exact setIp_keeps value p env _ fun v => by rw [open']; rfl
    · rfl
  | localaddr =>
    show Keeps p (setLocaladdr env word value p)
    unfold setLocaladdr
    split
    · rename_i l open'
      exact setIp_keeps value p env _ fun v => by rw [open']; rfl
    · rename_i n open'
      exact guarded_keeps p _ (setIp_keeps value p env _ fun v => by rw [open']; rfl)
    · rfl
  | lns =>
    show Keeps p (setLns word value p)
    unfold setLns
    split
    · rename_i l open'
      exact (congrArg title open').symm
    · rfl
  | randSource =>
    show Keeps p (setRandSource value inDefault p)
    unfold setRandSource
    repeat' split
    all_goals rfl
  | flow =>
    show Keeps p (setFlow word value p)
    unfold setFlow
    split
    · rfl
    · dsimp only
      split
      · rename_i l open'
        exact (congrArg title open').symm
      · rename_i n open'
        exact (congrArg title open').symm
      · rfl
  | papchap =>
    show Keeps p (setPapchap word value p)
    unfold setPapchap
    split
    · rfl
    · split
      · rename_i l open'
        exact (congrArg title open').symm
      · rename_i n open'
        exact (congrArg title open').symm
      · rfl
  | port | sarefNum | maxretries | capbackoff =>
    exact numberOption_keeps word value p _ fun item store v found => by
      cases item <;> cases found
      rfl
  | rtimeout | rmax =>
    exact guarded_keeps p _ (numberOption_keeps word value p _ fun item store v found => by
      cases item <;> cases found
      rfl)
  | speed =>
    refine guarded_keeps p _ (numberOption_keeps word value p _ fun item store v found => ?_)
    cases item <;> cases found
    all_goals dsimp only
    all_goals repeat' split
    all_goals rfl
  | authfile =>
    exact guarded_keeps p _ (stringOption_keeps word value p _ fun item store v found => by
      cases item <;> cases found
      rfl)
  | authname | hostname | pppoptfile =>
    exact stringOption_keeps word value p _ fun item store v found => by cases item <;> cases found <;> rfl
  | exclusive | autodial | redial | accesscontrol | userspace | debugavp | debugnetwork | debugpacket | debugtunnel
  | debugstate | ipsecSaref | assignip | defaultroute | lbit | hbit | passwdauth | debug | passPeer | challenge =>
    exact booleanOption_keeps word value p _ fun item store v found => by cases item <;> cases found <;> rfl

theorem parseOneOption_keeps (env : Surroundings) (inDefault : Bool) :
    Keeps p (parseOneOption env word value inDefault p) := by
  unfold parseOneOption
  cases keyword word with
  | none => rfl
  | some handler => exact call_keeps word value p env inDefault handler

end ZyAgf.Xl2tpd.Options
