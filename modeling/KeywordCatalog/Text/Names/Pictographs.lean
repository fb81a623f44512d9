import KeywordCatalog.Text.Packed

/-!
# Names of notes and pictures

Notation of music and mathematics, and pictures: code points from 1D000 on.
-/

namespace KeywordCatalog.Text

/-- The names of these characters, in the packed form that `Text.codeNamed?` reads. -/
def pictographs : Packed where
  steps := 14507
  digits := "
W`;T!Zn!RD_f(D`f`W132^[TwAu6D!zzu3inn9%m$4^iVxm0Up4z&@kLjfsf*a<(`156y.:=5ymNs6,uQ+1/>28ilO'w<`T`hg?7
S@a!r_hjQR?Nc,PQZ$9!2f]!aA;f;?cVlF$Z(f)<%#E*F7y+3&5%.Fevu?A<!NvPU>qkAlPLFT=^Npck`fX,'3T$z%eXhvUoi0TJ
<?#'ngbqrNs9Nd?w[m:IG6/7_+Llo>:[=W5w.4c+VcMUwU$PKd<&0j]xGPpe+GVID&EA/oG+rRn#f&.jaoqe.6G+O$dg>sR3T7z.
Qh_=(eyWgoxcM=NRTEISbwAOY]]hJt..1.>ax3WY_4I2:ya5(U'RPYkw)XJ4@j[r]bHBCHX>BtjriD)0ZVCrI5STdYQSUfE9TB1
u-fttm6-25%raEn;5K97Bxe&:U?QrMK@pF3]m@cEWN*tDDq-Rxk-z)2i&,H5y(QzFq<0%1XqeS2._X8Z!9b.OsjDqVqpp'rRcAIn
hc`]Y;4]wFf6&?FXUlgp91WMO0D(jy$h&/rTmm/m,pS5AH6e/Ul/Ltnjgk4hNT>`xNs3/cz`hDfiuihyvE=fsTEat2:wo_hA@a7A
8[y),p=9#sXhl#,*aOiG8v(Jg=GPDFwW2,;_a)DuoMv8UOgfE:<PNewumT;[_rH!WqWBTF(fn#4%-[M@G@u_'6BY,MGFIGOpu=8Z
R.LvzjOCowYZ6T1N1/'$KDiYZIb1NSw$@c!4UM'Si<CK(@9(:D!SMMHY#jHGpoO=w:b'Jbqb`2(,ec->]n8ZEzPOBCpne*XVMpF5
I4CT9fLzEobKR]fSY`[:0>Mrx7`;f@`aAv?q,wc094H)fBn[x-uC(%QpwfE@>0!+k=n&vgcl?#%W3X1F`v]x!9sG;H&Saq/JvlU0
CubF#fmQT<!IZ`t@=p,b%bXshMe%jK8u?^>Z&5*rVC)RTl0?/]-DCG;re73MP!P$Y>w<^Kmi*Jn8CcI.;Rvxgl^@t0?>N,CjX8dG
RgcbwBF,!ksQ=:'55=iN8#M(Sl>9QE]GiTo'1>fdL$/#af<rmMk%n:H6<D?Az.YL90#)xwP='>!?;-vrex#n:v0sH$Qh,KlK3/!H
:fO;3#(+N!C^FCwTOSU[u-T=o#1*Hr;U0c_F#nyE<Qp?.-8EYR@p?P>8pa@5PlzAD_WJenLoEJ?uu46.t-&'YzJEWt_?i%nUx<Wk
E.wjZ7ub5txy5s$YveuzM$>E(7U/I%B?/FSM[F'b+y6`U%56<C8r)J=cEw.*^Z&vj-sl07V@Z!zj$HGE17WzwmWV$TkKca^nw#'
)/vAx0[N/LK48M<C`R<Nz,/E66u<8hH*pQOp/o<Cu?&ekJM0CMaXATYNf*FO(2LM;^.$*zx2]6_.Ej5CI7QIyOTH&!IZZ?.Yca`@
:prHTi+$2]^?M#4w'89@IXpVEk,Ke`a(jIy&&mKDw_Z->C$='ulo9tb0_4zzFnS3?^GUT#6][_gq%1ggG/=S,/f$R:JNU5Ns,zfI
o!(u:9&+1.SGqc&HmV=rTHJRZ6+qE@:;*z)_ETRBg-j9JZvNUrI#@!n(J8`eKAdV#0k1QbtCTpFw3V4NBZ`S>A1a[0#aRWjTAw`?
QJ_MXW8cY(R;qFyBlWWCibsFUDo,?2Wb/qN5F1:mU;=$(*,u7,KsyizWrwWyj5r1.xK28&Hzj5<0/NaZV0Zzho(j)]E_)7],yKX5
WZyDL,7:o=p=9qcjk)ip2^lz8n8kEkAxE913#dOL=aJMZ[7S>2Ag8W@m![,baVRjM#+,XXyG@Lbvfv3sS8O1vbHj#bK^vbX;Ue.M
eJPdPgj=VqcA!?q;x3TNYuq7Yl/jF+=;-cH(F4lF:F$'xN(2xn:).]!F0lTko4i'&_Dqa4zDGqR_ItBRuejhy?+*Ejw5g+s'W5#<
<Dr5ghiFHP0G3$06LnAjPM!Wu=SPsfXon,H_yQk?)a;39]$NS9E+<(LR8=@O`WI,IPXz5LID^)OCFGIu2`CX[I4C8x@^F7t9_)Q!
QQ[&6Wd`[J`Wv.:`LVVcV/lI+hu&$UYP.aLrk`jcpk!xM7=vQ+!&Kq!NL@!0K1EtE328Wl3pr;F49sC1w7[L3**#gO^7rFu)oTz5
AMm>6$E[)46ND7v/T0S.jN3tm6`atEDCBy53hen542o71c'l=4H1MgERa'GWRX,XF-5>)hdLT=;SmIA(/3Y.2Mfn-ACEIGe:[Q)6
HX%J9t9xr3PvBm_%oMH/r7=l=C`v.l;=<><zNQn3pK]X'nh5Wu@!$(v:$+D00]h<Z8Prw#E@o8D>7oWQvN$2IRwoEg5Q$VQ<e<qD
71?=Ad2]M8_jz/l!0<y!d_n'u(k%TBYJLkl.U/_J^WWmvBir,u5jM-a`M/v=ZN5iU]31PRzg*`#IgAww:UoDipr&z]>K#%gprjvw
%-4M*4+_.33Q7U+YM61]nfO`rhj_E/&#D'LOg`tt/%oFSIdGr4v),kT&(2wZ?6XOZnOiC[UA^.k(EyM/kR@$DHmIFL7aPM`l1&T;
BQTuc*!cq/dybS[Ia,28p&rIVMS+6DCB;'@d-&l^`5>d;Jc:/h-h,nuE58oqiwkS3K]>cL=S>+b.PrU&eZay=0*@+Vp_H52MvHVu
5O*v>'OHP`II*Fe27NSZKzUP`4A3Wj2C#Yv=2dAwiTH3cjXGq[.@dtuGEnQ8*^+k?e>LMxpL(wP1-3e%max5-eg41VA'NMb11`H;
r*VHOJdwM]y!U`)@<LX7*V4*6A4vcWI=5z8@K&b]_l*C+m8Ry.nd#]BD`]Yjd4D8#fc&)D:!r4m%R1W(V_=3=1Pa3JP:BJ$;UVL7
UF&L:CP-,^xB%CH&u#3(C@FkE3Ej21S(yW:DpDAZ$/9erk?6:%Yf4!(G!cWtBDqy`w-M`?RqsNet)g7ST-p.yhuOC3f_F>pCNAu^
[_*IIINyMvg.aR:A8((MJGF`J6W5%<`a:Sl?3WfIYNq/XbWWz?(4_wg-nEcjtrY:^=Y!2j4ZYioK[Cicmq>Mby*1d$F#0$v]ZD^J
7_BF7:2[4WXqy0%6UN:FRuWIg7DNoC/sIb0/s/hy$J)f@g9k]`U_bdF&KT2KX7S&srW7x_.*E/(]lVdniZdk'W.J,FIyde5Uc&ko
Q@*Q:=TytDAW@0#ts2j]$5]/RMM,9I#yf_.Z>%i:TJ_+Wf^nq<>jXSAh?ejotcD#,.mrrq,`l[eK@[D0Z)vSE*3X%@^VX2^meO(g
Yn5GPA3Sb<tCg!Nx.j2i=fppq(nq2xrK(cxxfw'.+:,1t6L%O6DoN3K<ryiaML$Nn!G`E(^H*F.W>(U#rb%5P(<v[_p;H'[vU?0R
pRWjh^ij-/*YE<iK8lvB-3R=u%qrLBk(Jc_kS^WxYQ;@y9[`CLmhw<'=/o[$m@(;[nFZ*KCE,88W!H9%mGapH]Q-nZ8QWO;Z8?B5
Cx`xj?'L.:pqH*--J1O3B?*ql=&yq<()HbK;,[r?)Kn9r.bvggm/nOVw5avt9W=W/R@*$hI<#F;RB5-jT87eb%=]`07ff8<Q70jY
4^%7t2*m4<nEy1FbD`,8*1qc*4'1J^UuKqj(G9iL>kC=mNlArvO7g;7(EOT=yD.3,D)9tE6-kJv2dFV;i.zSY:TEKiIkcWE[;h$
./Sd!8t`VNT=kP`8%7Fn094MKZ<H$AAx3FH2AHo)k1fSg`L#uxHde5mjb+Y(V1!Q'9pw<,w[8o?6keCJy<e*,m['RBHXkMtvNoqJ
=w8*O2!AH$!Stuq[,ZIASs.mKH'm(Z'f[laFdUeMOzGmtN3):<1<g#%VB;.mBpwpD;;_TqeloJ+BIhNW&WywINm54&/[Z^-QBsR9
sG'W(3;dbM`Mx:Ki0SBqpSzHO(cR9pf!mV%dz>is>_UOf%S>uF#Lv<mj<cU_@j`q?tNWb+M<vXS6SW_sdomQ1z4TOx=TML,kVy8K
R,X#O]cz+IQ4_:DCqK@nWz4R1P*ag#!2[OnK-UPlSdO6t[M2y7jys#oKtNWOkhUATr4`(j/Px*00<RDEeiUNNN]G;cRo.2]8;Sdr
HLW/p2mh-k2s5F!,4We52g3q.+1JFu4Mp1Hm36JDr`ubIM)Qn4Fbez7R]&95julf-!XF1,8%o#b9oO.yIO[oDJIY^'-PK6G>%4*<
I'z1mBdl2E!)HAM8LtOJqFa:`RW#?'nQk,3-_Oyv7I'C2ESM'45)WaqWi$C!4`/j0jw1GUF#WDjZVlv63j(kN=hi6IMGvIp4$U9G
X([IUf6/UI,&5&ST*5#B8'x[=hXc0N.`G'-8Q:-)wm^SkwiYn.oe$haDU^.0Dzd]u^wit*q-lNs9jAYeJ:?,(gWpm*$c;1q2!BbV
FPjdb^^cp;Ps5NJK/cESglwOpDqqWpxN+<=_3M7/O1ge%;C#@j&-N_Rq-Chy>^U8[,M^N?f`7Xvq6+(r(cXwz.BUrJ4,8G/E.0[M
DRNntgmt@TG4<+%yh2>G5#9/Da8</Ye*WwCw7MDHP5+sW@o?BOX01[ptGRhD?s?^//r;cCOr`A4([_8uxh*h+XOl&G2>1jU0Id,h
NeSH6b84W5&wW^Utz<d,'Qi]qZ^OZ)pIEz[4TA>6yiR:8C??.=CMdApRdLT6HqB=UOF_MzetD_wZP@Q_Dlc(@(cHezKD;#r@Pssj
Hl3L$_@#4o]H22i/'^B#4FbYUcL58nYqKfNUq`kS:JbSpEjaapRJyiU?_!-ywz)>v$C*l-/jq86P.B[q;$Mf3g<OZdH_1n8#.iLj
Sc')oSjTDEFPSWcA3%IMW'M]j;aU&Dx*A9zbTP%<?ep?`7'+q52oBfvPacwt6F(S_^s_Zb828:]R(r=)/n=dhr@g2`[IlYA-U=3j
UP63AD?SfZ]4.-CG!oJLg/ipEpRbte`XBa9f.$DEb[j;C<e&8t31Z=AHMXM7:T>P)+h@JdX^HbGI&E^(yuD,Wxr=Qf-(I#zw#<YL
tPk#pFw^?4QE2n6lB/G:rJV['H?8uyuOXVn*4Q_SNhgQ4]]gvHsS7W$rAW1E-J!lbbBc:3)b3!OO.=1LJg&!*i`7e$l;)io=q5MM
5JkSd^W-wHIt<+A(KFM#vcg!B-8N]VFJA'Lpfdwq,r>859tknzKz6*jwl!(vl@[gHz9JDw@8:0a4z;yu/Akty-.fH0BK>y_/ADJg
;DJl9b>5'%AWMCdn)B]b?F]!(s)eD#:,2B:fz`#&k^3C$,VH2Xz#/Vy5lGp5J>k6H[:6#5)BW=dBWg%5jTN73/J-v>;*7ZnmvKrK
yyBiJrB>Du5ma'*ccB_'xr-=c#*vRIg4K*&0Bi4HrLI-efa.Qp7/AOyYk/o;z5A7i.8yD)hqwEDfY.$0TMd+e(XgSJ3<Pk9[hAVe
64JorJ.lI8p'NDv]$]vJpa?fM],-O[,<?Mbgh/*LEgCd?o0xjoe!S4b/bx#Wx`R/tO)n._?a.a[v5;jiN$LbB=]YF[YoJ$FP$V8<
L<(sO0j[TUf3j3Ag,R(W2-%:@#[Z[Z?HvU:K?@9jj$)`_ThC_mbBv!Vscid7Y,a7Qs=4h@b4B5$JP%<uCJVR7oJohxOQi01LkaJ9
_CvjKRjMz6nD2neni9kwaprTbbUl=7X*31&N*-AP6*N!eb'X=6fK55`BvsIRd('Yt-Swe9+5*R.Q8Amb5R0Om>D<Z7.)B6Bobg9M
=k['/b66N$@L$v14yYpf2UxoQQaaBfL,q_<1F.B3;0h@I)0wZ8Za#z@h=Igqq6gwFmk_i]b9/PeCL10(XO%4:if$Hw@Cym2/x]!t
yJl:CH-mW,HF]-kF3S*<0prLRaWDmxOSiaTnMM>IvcP_jS*QZMD3`VkfI2_tmaPDNS6U1sI47>XVnH-lV$3^uYOB%]3o!L7b$1W'
NAA2Abu/eF2o`4kvR=d^9bB6c4i=v;r,y5LCt$:(RvUYKPMP:`JD3i/,Q6P_q[n[d=@QCXpO[TU`jSY?/*AX+ei`qsWtl<i<>LYR
3zO87s$ISE5PidT[vV7S+z7)yR>Ap^YhePz7yCyTxv.[_5T`mIlSzykyO_D/3hk4IJ0P'pu3-'_8Y`Qsa9HlSrA&P/lAT9_0v;oj
Zp4oop>RIVxVrO?Qz]*edt!?@l*$yk/x80]7d:fp'Xl;8z]>ey?8k6l]Jvs0A6e1an2#*?r?Waf:$qO=z4.Ge&iRT/,T>K/H65Sp
*yl0H182(UOK7C?Y*eiCquw!E11@$52AstJ$[QDr8wajd1r<Y53`vKP3P$XLb>?#PbQ+v9jMxXqdKLo@`/nq1.Zo`OiETWb1Vv8h
Ub--<d;5If9M6P@)N.Kl'.>ZM3VS`J+.wvZdSIq_<ug[)-3?#FA%Nhf``#v$Xf&#0BWo`CQ)M`J,Drc4S8A;XrS_g%7[4!IFOS-m
_[b$pfcVlh;l9I8Upb(gU4#SCitcZP>$Ov%JvC'e8ojx$7m9[%m!,)5VHYSTTVAZw8MF3;-KN.kN#IGqsCYsOU@(ivb>dPYMB(4:
2O+hOsMN--J9[zk;Al!d>l3@CyhvZ0aK#]as^f]uj-xBL9YltY^,4!HA_DvYeQVg[<xROV.8BJ@jes/!Td#%E=Q;Cy`R+?s/?R_x
Fx7f.KLL[YML>!f^Mc:V!UZ,tB_pCV@gkdnM+P+,0'k]a64EckgDQgc7uTKwaD6irhMX@e0C#fvoYQ/mE=9<f'-o@(1S1fEV=^jx
Oa9r,C[`U@SlwLo>$rgbSl)L=7[5EtEy#%ro5vtsMQ11d?>xw7>^-$(*6C;lRZ>)TO*u5a5y642%Eh1H3(>G:cv=N*BtaJ7OCpw[
y.-YeWC1o[soi,v3N_6P!V*Pkj,Dh4*=;D5o+dp,aPI*t=)m[sJblz=pV?E1g?`b!DvF*aKrB:m2FFjlFcGgB+u('ri+MDrT8dX6
nRJ[C=Y]YF4Z;Fg]Mkf=3XbH8nd$#K9)QHSH]8dS25?%0U%HgKvC<nD)I4_6*8AsM1BjBO1DMnibE9w3A,e<&/u]cI1BKC.S_7Mm
d[cf(50Nw#;XKnQHDfoF5thUOccSe%)B*RmT<[wKl7W[RL2G,3.8;b@=YGKWGnT*DOcO>RFO69oSEt+x2WyXJO>A4YOM.f!rzC8U
Vbttlp!BQI0N&J3McWTlYTJ;#&iGoktqS?bAz*j@wLsr)Bta18VX2(-7`*AqQiYgx(9M8+o5`Mtd7JA&Ff]c.P^5+?:X-]Z,->4t
foS?YQO5l?z&`jm>`hI`.u``*Erji@IKv/XpxtKp_+EY+wV8Y5JoMQyy?md[o7;icIW*GhV>9c%p;XJSVIN(hwM^55vt8Y>_NLQ2
]Y%xkPQ@#@Zz0p^o2[$]U9VA6qfD_LC3&VJQps.H6]+gutM3(EF7/E749xa`(84=FmFac_6WF`[xo9-mrj:+1P;FvMwYEHguu@/;
`AQGRJGm&!Aan5$PvZjZI]KxS-w.&d[J)*pt[(CF['1At0Zcdgbk229(zc_l$MyX!.(zN&'@JJ`9c5yVK;Eexj[V>V^b7624U]Sm
L@&jkeQ+dtuG&]fzG]Oa4[rvUhSq]Es[Fe0pPyyKoD-'?$#&:OxGJQ7y>no:tj0qsF&uYpng=^nXbQ`G0U5Qd=&p;yk'3+X^#mPE
aMc,6CnvU<Txk!i#=UQ',%M($tU8L*j?[T.wRb9]hr>Y*%,`DJnji?lI/SeO269`G2:t/f4).>zR)`RHBarkXPt$*U`I*.Z,8>OY
Zj=qOAmMY+LR+o</fl4Q_t+]6tZT0[FIB3/wxPf*06reaLF.,l=7v5^2:5!)k3YL37HNK[=Ak.fge'_0WkaexMv>A'm)wN+,5XDf
r,/-6>q@]ztZte`_VNo)9e)b&J1O/:fPOlK%YsX/LW'*@w:`>IChC=yYT$g-s#nJ$sl_+LJ)DYN@4U^W0gT<s')UV`TM)Mhp=XC1
UAInZ9.cV#-EJcw`Ea;:1/B*[ZGm=R$I&Omn8jMk-,?hY(Ujvr)c6F2ck`Ere?a>r?$e=*S'xsjEn#7nx4;n?5Z2ii2-F8Xe,Nm&
0Gxrg8cM=>f7P-8,@QHwy0x$P:gQjO*!!H_2k8vXP]73+N..cmja)AwLloC%x'%iWMs<jW?al[PUjf%rcdkE]:DF.[Epbn?Ork!r
i0MhFwLx/2HXGg<6A)VkSO<K6`,NC]a4!h&&dzYDH(VztTgvt6.zzn1!dNBb*Y6&xX]tF_[8aWUydc-9Fx-q<?:;P(*emBp+BQuC
B]'s7fDN^^$.tdTOS*c:#Yl5mr3qyPzx?bi(_O:8*wdjd&'tTl48'S;V=i=%BjE.Uo;^KJx=kEYvft+XxN6SmE0/u44<z&sW:x.E
1ns[fR1liN!(Vso5H0]]SED'v1vd6aP#5U=,K0v+n=&il2V^.#.4x(VlGj/Z$(e9'Z5E.l?^K,%C&'2Je=2p&?XaKGW[LN_z]c#O
.2yP^PKZX>t[K7BqIb8`/K!1+acf?v3+XW%Ln;3b7?*-W`oQ`HmvGEqASYd&M+++;fG`n16&9z8SQqe)7(uKnP`AaS+VUVb2es7>
Z8t09uF@k5i=O?8#ni)ct'W54yust%gI3.3-4K#wI-j!r1'f*!s]SpO!f6J)kTg$?2:Y`8CM*RGIvWqW!v2vw`RI,m6R'&@WNbXL
KW@x,M1W@'7)u@gnT'B/.>0OJD*=W`ywCSa]+!1buoR*wXi4qizNUv7O0D:4EUt.7Gd=XzG%LFj5URAP*JEJ-8S+d`fY%=SE'u2:
bOH%-1`4`/J3ws#p=hwi@(x$'Z,A6,DoiH4.ozzW.OF-yb1vpkj*5Mw?Z,Aun6fmIkNok`q*k1bXY;N(;W`oS9?k<WR8P#6m-a0J
aO`cIsW&+.na<rbFO_XcBO$EJuw_+CL],;l>$9>`WoXy]_<,ZEEHo>9&6KtCEJ=AtD*QcXf_fNL$R'`Qn#,<FhQx;=!E[7&7Y?1`
Vo#o$gv.s)zaIwuAxlppC,GFwnSG-<jFbfO7D5J.OlfSXX8+MNe-K?==+xGMoQR_W?m3O?3LsSH*FNf'J)AB73vr>'?:1Y6&@SDP
9jEAA5N#?4Js`$^yJ5;[5w037H&Ye:IpA-B`cAGOsM%ekkgWc#-eKOn5L?miU/9p1%a0NUh41uE/v:wBE2O%Mu^Xc7]0=c!H>SzU
pO6to)e;oTIp,wy=HjDD_*-X:@X'D3upjlnBIn6]@bpHerC*Uc]Rb[/SdXD0VD5xhYbY;TeqJ$vU@,1d#6NQRYy>Bnvtw;p/K3a6
RRk_6GI,GteK0ys?rD2ny8urqAfT`'G$WXy-mjuFnC'CY$=@#c.ptQfnDjD04)G_S4=4`/kHpBOJ)jn--HIQst7s='Zdao&z:WT,
yhC`6F@-I9+/1%4g<r'rYV6OozTJ5Jsr^-eNgsN5IY),@$tkBnmMM'mH@u64V]-ZB_kcG;gRR4QdtrAe,CEip]9bOqZ3@l(Tn]vZ
0hkUVXof4n(hY*8r?+f/kFm(N1F'I&1IVX3,RG2kY'+$nW^klHoLi[bf_pZF+SH!;1Q@9*n*lDQK-3Htx3oY9vxmFrG7BPj;NLTz
)>aUT$0qmRalBRg21R2fh`$y+1QdiM]I'.-f2Px[o&1v.o:vy2+YMSi,t7g:su;wPNx0]fomD:iQAm$0d(kg!#phN@`y!4rp)TXE
]tC%aND+.=WRl,9%qRq<5Yd0+2*184Qo_O@4@=cYgHGgK$c]E:P?uZvJwiTH5H?:z31[P35cODjrcJcsTnCe32Y>(nwr+sdu3z8B
5TRicgjv]L)<8jzO(g7H5'5(TSP$#;fy0YbDp?<^2P*ac8PGu-SS5>9IOYWnO]`(zWN:Hr,zJ5]UGt85vHrYO`gr0t(Z)[UCKESg
x40CLq8k/e2zhXI5%x&-.:=ESsa*b?Sd^E[qKV[_`0PR9No=/G-D0q<I5O'@Vd6DWs8JEZOFUb?8.ALiI)BM-G]Z;]m#%jY;4]+]
eI#W'yc&uTxL@3)O!6'wjo(n5chx.DWm&cVKIBZ(=R[tKb1l#RiQ/WZgkR3%z>l#CZV`/p+Pb0ttD$/sxg^l4he/115OCRugjGh
1-ZnY#B_!?1oG<oh;!@`3FfcgmkCF[EkI#p;NMX>*YOFdtz)q7TEjrkR6xa3W<:#Ad%BbQFPxMa65dWB_r3Gru;2h?FL?J&v#m>u
CrU%gMJ;f+=AsSi0:,_$Pyp`zK6SvU'2J7JkNXfI*%W5%za:hyj7caxa9JjWV?$9TRM^eFFTcX?Z3d9LA;dQKnfRF=Y/BO[>89*:
CWY9p&z%0cMrF]e:f)h7`Z]47DCJtdUMFVNT,mUMx0*Nt&;&-VG3Yz?9DCuB*]S-m7-XaU!?Cpg<*A2c%5Xqhx)#e<s1lBTpZzwk
?ttyiXbIAx*%kWA%c`q4G]/@rw1jae0#s:oHw,_af(gGrL_MDL:h7=&mzEU'_xsYe::BI>Vobdn.)2O6[a0^]$Zj]qZwQe14Jo[c
[22-U4b6),0nRv:b@IAHp$]02dB>ZINm;)kaLzlJ@[I0we-siq'!<,%*,zK_oky3juZHRJk%zuUR=u9dkk+OI<JRu>E>vp^;+.@c
nPcJo+h7Ik>h:gy!C1fw[.'lpRI],e'FWHqSBUt5zC3lHGDpZ3^5BJFs;]qCw;0x8Nl@E>8WtZTlQv1/5<Ek95@P3OMCM!=>5hy'
,eG<;%)v2`g,uE7FINVsU#l+Ccb2zlfA<P9Egs0&x7?(L`G!Lvn7mns*$2>scG%$HMe9[KQ:_8pZV:d!:J=58Tgf-_[ZGvL&@'_2
=R,m[S-w+=+I=^)2jXGq2(Uq3V%^bC.`n(.0UAHuU@6+kXn+!P2WhDzr/z$oLqE.0)c?@6fNx@RW_m2tR@I1nn6w=vJbWW@SXs,+
nxSYd2pu0uIc26O%'5<YIpq%HEfgwPh9#V7wS!@ryFff)x)'1wq6H'ud9`t95PKZU/@R!a^3e'+]'Enea>N[bc/JSN9&hq?NSAip
C!bh@hIcJ^x?$d=_q^bj(T$wtvzw1(ZX!gl4A7%hrvn4T$`Jl/ml-F5T4CB8uC_BY1xnY(Ngq3*+MZ?PnND,`W$50+Xxq^1m_T&>
_834_p$/EF:koRq]N2P'`X`L?4VFV$7!p2$4%)Ork05`v_?)!Cy7Z+QR0WFJx<5sSU-mQ#>Nwpd%M(21n`8$Zk!9gP9%G-Wq5hBr
5bp?OEdJZ.,ShlP*ER-?r79PdQE`MmdTFGiKa6W_RKn*K]+_t!X0XY43N/]726IxzlanqDhS1Qpqv:sAg:`R:]'r>:3=3`S0?&hL
FP4f&+QTc2Y2a`2p.-M?v$TE/&dy=G5aAS1s%A*?^q4$p;eA;B`/o[w'GSMo&+nv%#YXyLY)1S_PGTt)<2+-+iGgTfZnmiey8g;@
Jv61rhU>ex&*o'E`k*qKtC/KWD?drUFoE.6Lctu&3oV@B]fR6cJ?JxyY^RLLWeJDH&taqT+k:rMi#T3pnU6'l=hNWJx.?CUAJi?%
w@/?_bL[DR>t>pEZRIrVJiqu`^Lx)7Ffi&S@V*r:cRUNwNmWvzY5YT@[/iUDQ1o(K^!/X?#Z+o0^f=:PrAG'%JX]#MLK/kRn6zdP
CstmR:GpI`$W+DV,,licyawKM[.JSZP'j$5S_+&RAq,yB07'b5i0yz6xy8+_S=7Z('a3>jrAP4NXVf%xZi[MeIt6YEK3`IZ7Ouyw
)e#5IVj,Q0xhto`!bA#!Ez42sP(SF.ni%rs&1ag[ZLR4``x3-U2uWqy$D2G)fck=ATNNMqw:M:Eq=et]]4.(O+7KDwn9py.jc(=]
zHI+lS(']W/wq>:274XwbLf23Y56c*p8$1YcZ<F(jC9z%H&v-.!mJ?c/5.=lJ0n8K//^m2offA(5t4YW`;gTi!(8ljNO7.x8au's
8Ho4C[n9?bvO8Vm@Dl5^3IIE67)9r$%UVL'-Q''U#NLRNHari*o&)Q[/7T5xrUsV296r*,YD.b?@r#kbL]4MrZ@d;)P[T0[JaHzL
r.(2-(hp`LVIawG/'hfS/c07%K)9Rwa@B<Vski?H[!skl7sfK[NmG&7B'6If0DW2g4?Y=7$7;O`EFFlk_s8.G15z/ien$j.5kub:
`^Ybq>r:z;B)<hrN2GSp196T^N>;Wl/5YzsWax,sFH$!++USJ3sdjx-H4stbt!'inI1pHLgBzR'@'948gJN'8yA_Kv1)'FHreh7u
m&UB]1&V@%()dwVT$0#&.*ip7^.r5Vz,eAKRxYdPo$69E?GJ![of+UgnHMH$GqlT;,/`v<<bCU?]pmk?]E'C?Jgu7.`^.N/YFE=:
UNaszzqd9E]01(=t3hXi*npOMw`'yl4)l./J!+/s#Zc(h^CPcjRrCnL@'ExSX,;n@1B[zC5?%G.Ib.uOY:X0sAh!CAB`FDLkQEi@
f5amE-2_2&'(Dncm@,^9urA2>_hz=Md+cHy6k/G8./]GYu>Pg/UEvHT@=*/(H?hl$kY2fz(-x31?_h_o'yZZO+;g`l-NP(/'<6b%
cYKb-u($Fk5vvrsgS^I71ufq38Th>`-bM0T+HJ=4RC&N6mzQcBZ4B0HrmQMb]9sn,7Ll-)j[Od5r>)mWy80x&B(kiiX%hux:g:Df
kcAt]LXuI&#IzMy@2;r%9jBaBiIJI8_v*$.M>O#vOENxN1Y2xm98f*nMD9]T?4!%!dM$xF]iS>(=1@i$0l=B&<MH$VuxWLf]pGN[
,_AwlTKTy1s]]rh`[-'FU[v&jT.`pCvA%MrQzNDB5TTw:Kuw21*wVuw:FrI>7Y:'IgE+(J0J5?B-Pq1AaUq%Zp;a>N#qmWa;]8Ca
MJJ%+8V/GW2W,1g,FGMy4jOw4;v%))*&%<vG[h2<MWL'^mupUil<5WUOw%>4Xpaov5Jz>B^p&tGP#;&F.Gu@M`d8@Pb2%vQ_nN&p
B_xu6e8GejC1f9PTE!/fbJyjK]ou^>Es2LxAgcrV2vyXn,`5(IkSvT=2sAlEFgsg0x82riZd0PD/L>T81y@>7R@Z2fM@L=Xr?dj
G-W.2Mo5()n>z84vmEG/+5<dWV,ND$g%7m..J;CpjE;:G^,87PBzIeqGLXq<QfxlTY]LiK/X3f3`K7Q'm3$[,yz9++O%ClgRirfg
KKub*<dkx28.xCnn?]%50Q`<-yJ0o-$BI6)CkdeCbk+eSS]cTMY+l2B6-u-t+?ZE#.mXV)qu!bB0s8_mRl)RFg^tf+)k8F'JE@'&
JE?`TDxJl?iMv:=DUoak?8Tn6m2@hnAC;@=3jSvlNV*lQq!#fx(h-YZ0gJ2q>q,9wbqb7_3FI#i@3rZHn)B&2RKrBIN__mc[0b&O
FX^T>f,Jcx7:IqC1+t5$@D/MF8OZSq+RkP#c'j>YDgKD'4MJP$^Ke,%/FQDbPb8CT]laG<F3Vbp&@dJ9no'VL4C_DB8=w5wdp9_J
vM5+c4?*AYev=$<WwJa&XnF.!0Xe6t85hjYz!H9rJ&?wp4]rbA/i.W7mFLJBqKxGliWUD,gS$mcn2v9L>jx!vqr_.[s6a'b!_i`a
jN4nx*^L4XV!Vpvz!Z/Yo(K9kpeyL8Ge1>qyG!'PrQy0$W1X=oABXx?+T#2YD8+YMVyWbEEng2Cz';*4=Kttih[rIU:[rAl:PtF8
b-uJ)6:weC]]32G%iQ0'nv-fh>ss=Oi<,cosaLZ@E==bB]:QxUU@^U/e9axx<EzsPh4/b8PW8#eX?8K91%$TSj9+b<eA1zoZGW.c
';'>ps&?K[k.A%MyMk=pDK11eh$2Zxk07*EJUY^4!NwZb#kuMR%yvK&@U=Rtar,^##QHd&T5=H&[LBz<SDRo81h7dMH0KZ5MZT6a
B'WQjX>*Xm7Gd?DgT1%GVmHOp.UMQ4&Ms/X/e]OlRAwBTJc(U=hgH6#iGPj;e>j$bn%B/u^PO$zoNT?B[r6#*U-G`WEsY.ejGh@t
Qc]5=#_g5S3(zQ)evzP22_JKPuIb@syM4;9&L1dcvengqR,DVP9/i7bM;dsL4^<gLR0Jm0ATT;k%JdPCl0_BgySclI5mHNgxC*ZP
P88O`k3[),JfMYgjVAwkA0lx'eSfnp?TFQV3JrM<5O^p?ch]01tJKp2D%+_#O'=jd(`D7hUDB1DqE1tX0y4k:3ywi[qp,P+^=fBZ
SMM2q@7VicxU$M_v<'mx`]EDWAh6+IA*e2PMwsY!Jx.p6<?TBiL&u8Qa#U60I(_'O]l*(#%-fY:TI-suT=zei[&.m^>'A?cN(ftn
70LXrf.WeJZb7DZrl;9>3w;xV1+M'MjR3;CGqBt?^/PaQBE&1rVk#ET(ZpP[9FvA5y<?;wEYL>Bm7;mm:]UsF&p^<bd7s6.lhIXR
:rEx=E8jWJ!1?W1Y.B7N@wog(nK_oFX+lG.N8BpFz2![mpUKb,/%#1H&x7vw4?,n`I7P@ZSk_Hm&ZaT!9HOqFgj%E`EG]uZ;l:jN
tku&e,oyp1H,X/Elf?$S^eO7Hh`4kgn>TBIrg,=s^LLvI_j`+u)_Yoo3J@fiU,z*a6J7Ukss4!RkN_fUuKFnjRv=>)M+(Gk9OGCk
qjk#$-(s=F^Y@cIBWat_XS/np=DNO[@Ih(##WyZ-.q_%S6%f4PX<46Q6QTWT.#=x>8=e9>]Mm22p,h6iUn)vpY1<zcP*CQ,o:c3(
1Ac!9`F'`#T_P38v;V*WQr]I:7aX+poHOIKncMO'=B$LV4q;xo9nyq[ym<(ZlOU,d:ZEFL8C<5^RCq*`74p+2uPWE_BMgw<nt'BR
W(CXTx%9Y)=Ei$Ggq=z'Yt;a&UG#b0CESDV&31Slfn#`&$a/f8c5+w.3F%<:gusxCL$T*aM_G=6)TAbUC?.xD0h)(wh!C)zhU#cJ
FEhzL6S<Toh3)l'Ql<Qyw_q?Wwr6R$jXLb#zJp;Z40sWQ0o3pBWYutus-6P(5@%3HjoZm8lO0=/$@@LPa@Ex#KhP&:oWl%jWGZW:
&jrU*b(/VTA-E(SDW!&f8e7DLyn;`HgKbC6;JL<R(A-NJ2q,Z1z8rfc5LN_qwjQFBIn<v7'RXNnnkfv2qGXl$tUP^;Wqn8Ki$M15
plk,9Q'2pfzh$pd8!foTk%jZjGhQ4`Q42!_1!rg`)m*AoVw(T-Yrr#i4FVMn`*NRCo^KTWJvMVx6TrdsdOf+tF7,fEGO*ib:F>vs
P+Ex9]*eqj^ebH-QUtY(W)A+9Fd)5o:TUn&'Uno0`K4Bz_E!)QP!1E^+RbbJ;GzTPJj5n=6I7ejkQ>2n#lpZ2,>(p!':Dkxb/yU0
itxx0RNub]r%)HyQ6D!6Dr%sK;7CE!h'*8VYBvQA2A9V'3g-3i)A2Q#o+qcB!yqowcZ[f=qN&AHHA(9&2nUfRpr#>9KKLiBVKdkj
m@k^NqZr_*6]L9qpLtBh;K,A<ZLk'WR^=RSR0e>CR5A]Rs9p>+dQ!7Ut=fWwTE-bcqby,E]%;-i<OfZtuO,u+1ovrjOU`fBKi@^=
(7:h0I6TnEr9$>;3(XEkw$>8!;z]Vn(!v[waTaFl<a:J2Z,w+wZT7Z_eTyEp-_X0G_$qq2jD!h!weP/&ObN/H1tkd3nfxw?`g<'M
*&NR2[pfWg:xP#]`qH/W@krw[jz1&brjv8^;?!dpj<]xDjS)T;949JD9NZ%[r1#f*C'MtQq+JDaWG$4Ai5RjJ(pTDOY=<=:b?#qa
YV&P+TMBg7cJcnzi+&2uP#eM:yYjK!OfaCEN9L1VxPV_klCsGp[Li0qb5Pb2Evku-.(mb5[J]K.frI.oG_DNd`w+J5fPiH:.uf%`
+_z:TGm3oF[?P6xbM:P&k35q2-90gRVVjAHYnHd[1N^a:e:9!=o-hx.v22#:4FX]iKSwMe)yBaf*u94,vcl?:9UPU1,7rP'=ET_f
_Hm/8;FB#7yYqAr&G@THeUY`<;uUV*0ih/F,y%NhWET,#+Mn[E2N/e%-krG..(G?N6&@bZ):%GNR'.'Q7$!'=bq&4NhHes/gm6U2
d9+@&iu-n+YOZVO9]yS@3O!L`bJUZz!dsfXLA5qmKr9GCL'N?op&HE+k&wMg_D.>;cl/TA_3%KlDTvWR'nO.%#Y-qovL%vEkcL`P
rN/gP-FJ<Z(k+kqha=tn>9kpKf+sSS?Mn!i@EJyCYpBc1/qwjDO6zdT't2Sq.$K?q$Dysw.o,NU5CMDXZIZt9F&E^8aLT[3F9mdR
H=Y6j^f%T::)DZ]jgP8p424nt)->pZ?qld2c`.)#bJM-HcY-1&%6r>X@e]Oa;nGaeO-t/y-L;LkMJ^WYT7]C.490$Ug7<@oa?)tu
BCPH,HCdfdVLu*-Cx;T.Ec9VLdF3q(ih%tt?Rm&TXE6zs?q@>1(,:!Up$7GX[U&rikQw>]V=IgRjI^d2M6fe-sh0v)XrR:g6Yy[C
iXPL:HXTvlyJo6v;y5>LcwiByvP_1Hs`u2YlQHnSXdw3Tc4`Vj+pfNxU+k'C7u;f7$R4^#F^]b<x-,juWSaU7KU-d/s3[l-$t+=t
`'Ii17s15*UOxpDIwiM#[5[fd()yHC<U5nAu%W7GFdiD(JGc't$g=.hJ[CrTf7ig1o*)z?zetX!*Y:';$!1V2w??.CP/fvrX2?Y
$!kHSU-ge0CI:Q_?4tM!^j.k^:h?Pm8T)^USY(l?[8/iSc>5cE;JKK)E*nTZ<lT'Z[K!k5)Gb#P35sy)5^hae&l?buVN(OxwcuGH
M=>g2VJ.`-QF3QKWa^3iVgLaj7;0o._;w39,,4*y15<AkBH_=m__Zvj`CbP7Db6g$a9jS<(E+=ZmXA0KHf?hsl5X>:2!Q7*<-J^o
cgK3%)ii@7GypH)z6l1sM6R(/v:fwIO6+YZD4#F+&6%UYUv/`5?Rxt])=nFShmW3wLgag=MQ7z^aMSW(y,d*[ejHqIr-SG:8;I^V
<*2TU0?^#@0V$n@[Pl5`.0H&KXjmg)w=_Pcxt1a7'OQVNFK,rSb`',d;OtuFWNPYNaU(b*tk(,!7*qS2FM-)it00DDr&G*QM[!sz
>Mc0l9f^WSg>ZP68.POXP-5YArHp5rHx[c[pOsU0TVo0L6BfC?uqz`BJ^<xA4J=_@oMgAhewLnH)I[/`*zobtHVW-Rv/EazbQIcy
h8MXKS]Ft6[LtAy3E+oqW>($*E`X^<pi=G3ZWvw?uMBwo'qbrl'7'QHuu62NLn`dm:U0Ny/RX*H[DqFttMOxiFmxvuUc[QnDsiPX
Uh`jXq(*BZHGnB`FK3:ZkJLfO`Qo4$DE:[JUUP3P3(0/(t>[BeNNNdr';yxPrJ)fDg2nh;wYM'Bu>Nvlua/5RI+AbAE40w8<J]wP
)vXCAZN2A2pFw*D'xNC.BGK,@8Y!P9^ko2da,LC@@'t.0BqMSiSR+bK?Y1HLoDRzyIlgzdGGNyJGEKG0H60ZV+KBojZ6:KDshH,R
iCUhXO0y!hrozQ/PjTT0k@fl0m*z9-!Iey9lIXIru(vwM6qu$YQthPsGy)hi=.Hx_%MJ/-lB(1d[lzjjEXWP_IO1&fD*WkGI`,;O
y7a+(YQYz+WERg;hPyo)4LaMzhYmL@]#:[fwR/=^C#RviCzQbc^;b>p?]K1+GTY_C_K-AW'TRqS71Gkp+QWOMm`GlGd^$Y06)eXe
4Oz49&C*wL/aJ8)v#eVJsP(H.dcS(/->X)3r(G:Lo_W_?E=wadbwOlTz%?b5emZg98IQvBkf>0yGO3rKAQ7>6Di^Libsne3wV1ni
m2EmK-%?'YLHq-!%=*B0_rRYr?DCOm7I#XBsUnxyrqu`#vEwi,ZjQ[Bdr'84GdxrETlhBUwUCX?,`,[m4u#<P_@=gr1#gC+a0MPj
)z'cM2,tw]H1aU5;whg4ODX$.Sp7b#=SGEe[zlkR4%0?k-O',=;fA?+ej>mPR@JP%>-*4'6;rV6,WK7n]KO8il9?Iiy`$#b<p^_4
f;w@+WyH-6wNrY&+M5pD]z8yZ4CA6B1:o>&t%wAX9eFQ`':h=M2MO9WnWiBey3qe23Lilm$<V8?8?=o<6<,)`ozd^Vc0uFg)`$P7
cl-Bi^E#jy=0*Jn*f95`FyXgu`HATx4@+tu&FF]X)v_P]aN'r#6QoOUh^Z9Y6<1m8:Yw'&>EVXFz]pyT%b+yyRgKN8$?lGc6cs;I
j^7_`[TNBTgSp05nKQL3ROgdn.?4@gy55!LU5)8-?Tu:u9J8En)LJ7CtbrsFUh=)k$*PuSx@_nc?`C5/f!w3-DBnu7zD[)s4E0m@
;2AGs2IYT]2)Asn@;PVEn4^vpxX@q2+>w4_zTUwA+oy%+XrNiT:/vLhh*<NR>!$56K36wBeLB]`s]M]T/0/#=lff;f7Q::W9'+3Z
+imDBNXa^06M!0z7]Hc%%`3+SDrh9t'.4Q,y1lS=zn>3MrgFibVJ=lCWF),:67MfUjrN8uR]YW3F8D66aYn&h8GrcU[I!+1pUy5*
RK35NQ4$f#g0H2sjGaDa;+K3)dS9<+hC,PLY*D6Wl3!lQ(z(v3M=5;%2-($f^;Z*vchW1s-x-1V,!8Mf3gY1n:b'Wxwhpoh3<%sA
$]>0l-K>BIq+Q2/::x5()#E)lq&89qJ@H#1v3T-bws.8ExCT/aG8T[ea@LyF)*>ym_gRTe'uI!ci+H&DW@+#n;p=CwW0-Mj*?paX
eum>64qSE3-u`e1bT>,9mm*ID&pSuXO<,]y=vhTL3G&bv:va[]=BJjbDqAFCqBb@)yb1$*l^5p8wolRe:>q+w34_PMPnn+rbD*#q
:Y:U]Dqzdv!c1%M.FfoIyXv!eNIY!2IQfD;s*fz>65Y=Q,1:H`!X7*jv>FvQ6!`s*X:$$?9B/&b<M>?>((meZ!y(A2O1(KLY]:7T
[EKAuh%;Py+7@X7/<NfVVsg`DA/tDd?[X*PJ6IJXuw6WQ$?+Z#G5u,?zV]O#<H:LiqYQkmWllb5<4YQfETlEAi3t+Yr1T-R-,$>&
UZgn8aPoa4VbH0T(?UsO-k8n%6t?5ZCp3K[4=E'eS)FHzjBS#%4Bc%z%c)^xegMvdvoxeysqE)?/6XimFMF&`Y$o5)2oHrtu3-q4
?YjJT-!g:p/99*JG)y5GTmt/vu[YVlE_u`6B-6DxZ:3Z_<B_o7H'hd4!6uZqLY0eKn,_[K/]K8a>qPvW)h;=nXQO+)hA0C<d><ca
^'Xt[X@^h.:&Pc3t).[UgWQ;c#X:(,x8`mfuzv0)K5dvUtXLmFPs&znjw#;.p:p0r)_n.3cB>$^%/dI4_d69(>JFVE!n0KSl7:=)
PFc@dH)Oc$MZ>GhwyeXPbDvH8R5$r:C?umkrI30JgoZzJ6nAIwB[ngv5V&:T7_dwKjZdKUI]77:spF<%3909apagFm?,SU<viBmA
x^@FE4^uP3NY7%FQX4gSnHvo;7iSt8aX/*EGq:R*Bi(wD$Z8si%X5Hr.(RYXwi=(Nn;^Nlp`H,b&ylvp@h+TQYICP4JvYXoUcepZ
rJo,_gLK0Vt^$1R=<_G/M3l:R*P2^dh4(d1OtP$WE4+)GoUV9iq4@woHB%`i?p[EfZbT,i[;fDVSq0g7XI1ozREMxeEwzxj01Doc
13>.9;sx[q&@Q1e$XH)4)//vi<JyjFlsCj4k7x^RFf$0b-;GWr2S8X4S-n,B-(SjfSbdgnfRhhEL]u/Uw&^z2p0Ch0h/gmp^`$$a
DHHV]*K/![;k/z05E)j&G$xd*#0&mFI,SH(-meLin,LN&P(>hJ]fR2Td.x,Jk8^,l_I,Fs;AITwcXpkV#<$oxq1WYKQ3B!MB60xy
fLgCSv-pxhZilV9,0:#iqW@Pe_%AZAq[ZpC'qPNCDP/;hqbx_lUdCQ*>s*,dWL2I.zW-n<0vHaaw+rTDuzEj/[-8/pTe]J&:B$yM
Z%+>u1PYuLyL;v)<Isjb!dPcn'`;tqJK8Ogi$r<_:Uu&aiiP*mdNT2K@*_8Hu?1=]&A2)HX%>Ckt`$#hx]92N'8_17j6poQ0#lJ[
fO[.!7eC7H_uK/9H.MK[FlMOFUQTS]aI*4'uwGhDPp0-9.yg@ttI#/He^m'ifgR`)%%B>sn<]e<t9-Zf3qye]^yG`$3h.&)xxL)l
*+.>W.,_6-w4jZFVsZY=Fg+Eb3QF`$er,_Ywr,X)YU1eY^vVE-Db=0O.la,1g:LN)Wkk-;i&N5UGe<$pi;^6(#X;9i*@j&zBY0`Y
)^PthS`<=7by<]nxJBd/bRB%o8E*9o<,&q7SRb]';kJTA3fxRE2$[fvMcP_R/[G7@j!hwwD=(l1*zW$qs(^T%d%aA0ZS3]ZGXysZ
_I4Q0lCv?5%^(yg<WF-X5yQd+?@/@sYfVZ4M7TbJ,5KYGvZC%2phVs+/mX&:<_^$,9@WFE)QQ,cJga&mqvPeHVLy#./')B<Xlu'6
A8-sz>ad#&J7h4[)nOw)`Ou0=+IlNRaOUZ^5(B;z*G*M?N-d9mqVFrB$H8oFw$xL7S:a4wGSIv])-&Jhsj@E3fM)!N#jl9dOT[.-
B<mVL^hRVcK9$C_'Ly:B^WTx>_STZt'q*>aH/QQHnE=2q$^kw]<S5Q79f6z]@/#9uku1&iPIZUxrEon<N-+P4M1-<FI1wsv]&xpe
254$m-]0vujJ79WLD'Olnp/YJzmKp-Iw3COGbBVD@[0n-NlCKfwF@3=3w'87SQA=t-D74/$u_kr>La3!)h/joQ)TwA-HCdJ'`?L-
UHXyo6kuV;J;;Xbmm*DpTPNlVN6eObu7&y(PZWS4ki%#p=4d($p5UfS(IdU8hF#kBv06]tCf]/>7O)Dl]_M%=3wMof@6frBkDqln
b^23?ucSlhB0xWd]OQO<5[=PFP^tC1EDq>*c<l?'7q-ukYJvI22bzH]g(PUt=@T'rvQkhAfhgg&cwa49Y;$K+@Xg3V7(cYSj?,:U
745h<0BSiuaNK'eKn9C;+:.s+_wHNguEen+v@N;6MP'35o7-]sKE9qChS(n4^?TU,'2!n?T5Z>Qg67iOw=tV7'M's'(`cQ,x!j[H
D!?'363plkzMh-8>G(Am2pxT+1vNB_pR>3PHf^]knVv4UOx@ybHhwP@IAju&B91(>>q:cZ!hSq?Q#A5)AlS.qyIWXd#7RviNJ8nh
]6[<c^&jMta0Jzp>whF$j-i$wsnz]_ZaP&?xO8Zg`]grguuTN&_,Zxh-w(l`o!Q59f[<iOtx[[-W8R:%9f<VGaX3;hqHen&rPQM<
JXW*mI#BxFM3pkZ!<$O,&Ut1'^Qp1k6Lw*k6;-U@`U^tTpD#i``H6['Y:$=4q?k]b8Lau&<gVt$iE&9.t6E0-hBTf^NrjaiJ]lzG
vNgTmusEFb&.V@hlY=k1H?]$iiOR'Ec!0XqX^0Fw4l8FG(ckX:]e@emk:el./94I7r#qFqiREL'nvIQ]u*!UtZKhZ0+rfT:c?,;@
p^Cyex77t#IktiD'i0qhAl^U^bA)]yd+oo87rG=65au(q1AznZR?78]+%9;)*&'2l32;3U6Eou?y8dKimBhaVoTjmx9^;$vSR&Ho
X.izNMCVHQi5m]r:CyU%^.9vO/p&.,E`B$I`]J/kw]5.Ot9UV2@zEY#@5`rCvDwF-*ygU6)zi-nG->0xmkM.Bfhw8'6tn*9R_>jD
q+Ql-[^pt0JZGpA/gEqN5XqU[ie/1c#M&=nkX5rjvkdPGvx&^[hvQH@mcDHFS<0-2SVklj].3oIsn6g43',-Ss@dTwi4w'wi1Y%.
?4x!eiO,eY6Rqu'<_UE4HaaoQ1!EkJq8's4YEJ`fW#<&I>5Z$c<y`X&^oh8/1LmdpJ'zXXsM>Wc7P^dgi+xY.[yMF;jUrE:UL?Q1
OLi>Hc8O'O&P2JowbC(BX%@In-`r<M$4RaV@>!9U&*%(<H446p^(x$JUK1Gabm/gr=zI_MGp1sGkHER[btDTI66GnEe5o1xm/puC
y,0ke>TSnl@0ph^WX9G7QoehzH'3uCJ,1,l6>E@w!e)*uo:@.h$;7>:k]eLQcQ4'xqgH#@([Y*P'2kkOeWT+C(?ZDj`M5NdYeNUS
1Ih@:Fv?i/Tw6%M(,83F+$&m//X6$.M0rz.Ns*A9D>,E8aWQiI4pM6`<!AW/"

end KeywordCatalog.Text
