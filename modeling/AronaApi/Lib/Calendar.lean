import AronaApi.Lib.GoStd

/-! The calendar behind `time.Date`: every day lies in one month, months follow each other, and adding days or a
month to a local time is plain arithmetic until the zone is asked for its offset. -/
namespace GoStd

/-! Days, years and months. -/

/-- Days before a year that begins in March, counted within 400 years. -/
def daysBeforeYear (y : ℤ) : ℤ := 365*y+y/4-y/100

lemma yearOfEra {doe yoe : ℤ} (hlow : 0≤doe) (hhigh : doe<146097) (h : yoe=(doe-doe/1460+doe/36524-doe/146096)/365) :
    0≤yoe ∧ yoe<400 ∧ daysBeforeYear yoe≤doe ∧ doe<daysBeforeYear (yoe+1)+(yoe+1)/400 := by
  unfold daysBeforeYear
  -- the last day of the era is the leap day of its last year
  by_cases hlast : doe=146096
  · subst hlast
    omega
  obtain ⟨century,hcent⟩ : ∃ c, c=doe/36524 := ⟨_,rfl⟩
  have hyear : yoe/100=century := by
    have hcs : century=0 ∨ century=1 ∨ century=2 ∨ century=3 := by omega
    rcases hcs with hc | hc | hc | hc <;> omega
  -- within a century the quotient by 1460 is off by at most one four-year cycle
  obtain ⟨v,hv⟩ : ∃ v, v=yoe-4*(doe/1460) := ⟨_,rfl⟩
  have hcs : v = -1 ∨ v=0 ∨ v=1 ∨ v=2 ∨ v=3 := by omega
  refine ⟨by omega,by omega,?_,?_⟩
  · rcases hcs with hc | hc | hc | hc | hc <;> omega
  · by_cases hend : yoe+1=100*(century+1)
    · rw [hend]
      omega
    · have hsame : (yoe+1)/100=century := by omega
      rcases hcs with hc | hc | hc | hc | hc <;> omega

/-- The day before the first one of a year that begins in March. -/
def yearStart (y : ℤ) : ℤ := y/400*146097+daysBeforeYear (y%400)-719468

lemma yearStart_add (era yoe : ℤ) (hlow : 0≤yoe) (hhigh : yoe<400) :
    yearStart (era*400+yoe)=era*146097+daysBeforeYear yoe-719468 := by
  have hera : (era*400+yoe)/400=era := by omega
  have hyoe : (era*400+yoe)%400=yoe := by omega
  rw [yearStart,hera,hyoe]

lemma yearStart_succ (era yoe : ℤ) (hlow : 0≤yoe) (hhigh : yoe<400) :
    yearStart (era*400+yoe+1)=era*146097+(daysBeforeYear (yoe+1)+(yoe+1)/400)-719468 := by
  by_cases hlast : yoe=399
  · subst hlast
    have hnext := yearStart_add (era+1) 0 (by omega) (by omega)
    rw [show era*400+399+1=(era+1)*400+0 by omega,hnext]
    simp only [daysBeforeYear]
    omega
  · rw [show era*400+yoe+1=era*400+(yoe+1) by omega,yearStart_add era (yoe+1) (by omega) (by omega)]
    omega

/-- The first day of the `n`th month from the year 0 on. -/
def firstOfMonth (n : ℤ) : ℤ := daysFromCivil (n/12) (n%12+1) 1

lemma firstOfMonth_eq (n : ℤ) : firstOfMonth n=yearStart ((n-2)/12)+(153*((n-2)%12)+2)/5 := by
  have hmnt : n%12+1≤2 ∧ (n-2)/12=n/12-1 ∧ (n-2)%12=n%12+1+9 ∨ 2<n%12+1 ∧ (n-2)/12=n/12 ∧ (n-2)%12=n%12+1-3 := by omega
  unfold firstOfMonth daysFromCivil yearStart daysBeforeYear
  rcases hmnt with ⟨hm,hy,hmp⟩ | ⟨hm,hy,hmp⟩
  · rw [if_pos hm,if_neg (by omega),hy,hmp]
    dsimp only
    omega
  rw [if_neg (by omega),if_pos hm,hy,hmp]
  dsimp only
  omega

lemma exists_month (z : ℤ) : ∃ n, civilFromDays z=(n/12,n%12+1,z-firstOfMonth n+1) ∧
    firstOfMonth n≤z ∧ z<firstOfMonth (n+1) := by
  obtain ⟨era,hera⟩ : ∃ era, era=(z+719468)/146097 := ⟨_,rfl⟩
  obtain ⟨doe,hdoe⟩ : ∃ doe, doe=z+719468-era*146097 := ⟨_,rfl⟩
  obtain ⟨yoe,hyoe⟩ : ∃ yoe, yoe=(doe-doe/1460+doe/36524-doe/146096)/365 := ⟨_,rfl⟩
  obtain ⟨doy,hdoy⟩ : ∃ doy, doy=doe-(365*yoe+yoe/4-yoe/100) := ⟨_,rfl⟩
  obtain ⟨mp,hmp⟩ : ∃ mp, mp=(5*doy+2)/153 := ⟨_,rfl⟩
  obtain ⟨hlow,hhigh,hstr,hstop⟩ := yearOfEra (by omega) (by omega) hyoe
  have hthis := yearStart_add era yoe hlow hhigh
  have hnext := yearStart_succ era yoe hlow hhigh
  unfold daysBeforeYear at hstr hstop hthis hnext
  have hfrs := firstOfMonth_eq (12*(era*400+yoe)+mp+2)
  have haft := firstOfMonth_eq (12*(era*400+yoe)+mp+2+1)
  have hrng : 0 ≤ mp ∧ mp<12 := by omega
  rw [show (12*(era*400+yoe)+mp+2-2)/12=era*400+yoe by omega,
    show (12*(era*400+yoe)+mp+2-2)%12=mp by omega,hthis] at hfrs
  refine ⟨12*(era*400+yoe)+mp+2,?_,by omega,?_⟩
  · rw [hfrs]
    unfold civilFromDays
    simp only [← hera,← hdoe,← hyoe,← hdoy,← hmp,Prod.mk.injEq]
    split_ifs <;> omega
  · by_cases hlast : mp=11
    · rw [show (12*(era*400+yoe)+mp+2+1-2)/12=era*400+yoe+1 by omega,hnext] at haft
      omega
    rw [show (12*(era*400+yoe)+mp+2+1-2)/12=era*400+yoe by omega,
      show (12*(era*400+yoe)+mp+2+1-2)%12=mp+1 by omega,hthis] at haft
    omega

/-- The number of the month that a day lies in. -/
def monthOf (z : ℤ) : ℤ := 12*(civilFromDays z).1+(civilFromDays z).2.1-1

/-- Every day lies in one month, and has its date there. -/
lemma monthOf_spec (z : ℤ) : civilFromDays z=(monthOf z/12,monthOf z%12+1,z-firstOfMonth (monthOf z)+1) ∧
    firstOfMonth (monthOf z)≤z ∧ z<firstOfMonth (monthOf z+1) := by
  obtain ⟨n,hcvl,hboun⟩ := exists_month z
  have hn : monthOf z=n := by
    rw [monthOf,hcvl]
    dsimp only
    omega
  rw [hn]
  exact ⟨hcvl,hboun⟩

/-! Local times and the instants that `time.Date` takes them for. -/

variable (loc : Location)
lemma date_eq (y m d seconds : ℤ) :
    date loc y m d seconds=dateInstant loc ((firstOfMonth (12*y+m-1)+d-1)*86400+seconds) := by
  have hunix : (daysFromCivil (y+(m-1)/12) ((m-1)%12+1) 1+(d-1))*86400+seconds =
      (firstOfMonth (12*y+m-1)+d-1)*86400+seconds := by
    rw [firstOfMonth,show (12*y+m-1)/12=y+(m-1)/12 by omega,show (12*y+m-1)%12=(m-1)%12 by omega]
    omega
  rw [date,hunix]

def localDay (t : ℤ) : ℤ := localSeconds loc t/86400

lemma localDate_eq (t : ℤ) : localDate loc t=(monthOf (localDay loc t)/12,monthOf (localDay loc t)%12+1,
    localDay loc t-firstOfMonth (monthOf (localDay loc t))+1) :=
  (monthOf_spec _).1

/-- Days are added as local time. -/
lemma addDate_days (t k : ℤ) : addDate loc t 0 0 k=dateInstant loc (localSeconds loc t+k*86400) := by
  simp only [addDate,localDate_eq,date_eq]
  generalize hn : monthOf (localDay loc t)=n
  rw [show 12*(n/12+0)+(n%12+1+0)-1=n by omega]
  congr 1
  unfold localDay clock
  omega

/-- Years and months are added as the days of the months that pass. -/
lemma addDate_months (t y k : ℤ) : addDate loc t y k 0=dateInstant loc (localSeconds loc t+
    (firstOfMonth (monthOf (localDay loc t)+(12*y+k))-firstOfMonth (monthOf (localDay loc t)))*86400) := by
  simp only [addDate,localDate_eq,date_eq]
  generalize hn : monthOf (localDay loc t)=n
  rw [show 12*(n/12+y)+(n%12+1+k)-1=n+(12*y+k) by omega]
  congr 1
  unfold localDay clock
  omega
end GoStd
